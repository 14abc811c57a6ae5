import OverclockBuilder.BytePacking

namespace OverclockBuilder

open BytePacking

/-!
# Vendor boot images

`mkbootimg.py --vendor_boot` for header versions 3 and 4, and what
`unpack_bootimg.py` reads of the result to find the device tree section: the
page size and the sizes of the sections in front of it.
-/

/-- `VENDOR_BOOT_MAGIC`, the text `VNDRBOOT` -/
def vendorBootMagic : Bytes :=
  [0x56, 0x4e, 0x44, 0x52, 0x42, 0x4f, 0x4f, 0x54]

/-- `VENDOR_BOOT_ARGS_SIZE` -/
def vendorBootArgsSize : Nat :=
  2048

/-- `VENDOR_BOOT_NAME_SIZE` -/
def vendorBootNameSize : Nat :=
  16

/-- `VENDOR_RAMDISK_NAME_SIZE` -/
def vendorRamdiskNameSize : Nat :=
  32

/-- `VENDOR_RAMDISK_TABLE_ENTRY_V4_SIZE` -/
def vendorRamdiskTableEntrySize : Nat :=
  108

/-- The choices of `--pagesize` -/
def pageSizes : List Nat :=
  [2048, 4096, 8192, 16384]

/-- An entry of `VendorRamdiskTableBuilder`, with the content of its file. -/
structure RamdiskFragment where
  content : Bytes
  ramdiskType : Int
  ramdiskName : Bytes
  boardId : List Int
  deriving Repr, DecidableEq

/-- The parsed arguments, with the contents of the files they name. -/
structure VendorBootArguments where
  headerVersion : Nat
  pagesize : Nat
  base : Int
  kernelOffset : Int
  ramdiskOffset : Int
  tagsOffset : Int
  dtbOffset : Int
  vendorCmdline : Bytes
  board : Bytes
  dtb : Bytes
  vendorRamdisk : Bytes
  vendorBootconfig : Bytes
  fragments : List RamdiskFragment
  deriving Repr, DecidableEq

/-! ## Writing -/

/-- `pack('I', value)`, or `pack('Q', value)` with eight bytes -/
def packInteger (width : Nat) (value : Int) : Option Bytes :=
  if 0 ≤ value ∧ value < 256 ^ width then
    some (littleEndian width value.toNat)
  else
    none

/-- `pack('{width}s', text)` -/
def packString (width : Nat) (text : Bytes) : Bytes :=
  text.take width ++ List.replicate (width - text.length) 0

/-- `pad_file` on a file that ends where it is written -/
def padFile (padding : Nat) (file : Bytes) : Bytes :=
  let pad := (padding - (file.length &&& (padding - 1))) &&& (padding - 1)
  file ++ List.replicate pad 0

/-- `get_number_of_pages` -/
def getNumberOfPages (imageSize pageSize : Nat) : Nat :=
  (imageSize + pageSize - 1) / pageSize

namespace VendorBootArguments

/-- What stands in the ramdisk section. -/
def ramdisks (args : VendorBootArguments) : Bytes :=
  if 3 < args.headerVersion then
    args.fragments.flatMap RamdiskFragment.content
  else
    args.vendorRamdisk

/-- `vendor_boot_header_size` -/
def headerSize (args : VendorBootArguments) : Nat :=
  if 3 < args.headerVersion then 2128 else 2112

/-- The four fields version 4 has behind the others. -/
def tableFields (args : VendorBootArguments) : Option Bytes :=
  if 3 < args.headerVersion then do
    let tableSize ← packInteger 4
      (args.fragments.length * vendorRamdiskTableEntrySize)
    let entryNum ← packInteger 4 args.fragments.length
    let entrySize ← packInteger 4 vendorRamdiskTableEntrySize
    let bootconfigSize ← packInteger 4 args.vendorBootconfig.length
    some (tableSize ++ entryNum ++ entrySize ++ bootconfigSize)
  else
    some []

/-- `write_vendor_boot_header`, without its padding -/
def header (args : VendorBootArguments) : Option Bytes := do
  let version ← packInteger 4 args.headerVersion
  let pagesize ← packInteger 4 args.pagesize
  let kernel ← packInteger 4 (args.base + args.kernelOffset)
  let ramdisk ← packInteger 4 (args.base + args.ramdiskOffset)
  let ramdiskSize ← packInteger 4 args.ramdisks.length
  let tags ← packInteger 4 (args.base + args.tagsOffset)
  let headerSize ← packInteger 4 args.headerSize
  let dtbSize ← packInteger 4 args.dtb.length
  let dtbAddress ← packInteger 8 (args.base + args.dtbOffset)
  let table ← args.tableFields
  some
    (vendorBootMagic ++ (version ++ (pagesize ++ (kernel ++ (ramdisk ++
      (ramdiskSize ++ (packString vendorBootArgsSize args.vendorCmdline ++
        (tags ++ (packString vendorBootNameSize args.board ++
          (headerSize ++ (dtbSize ++ (dtbAddress ++ table))))))))))))

/-- `write_entries_padded`, without its padding, from an offset on -/
def tableEntries (offset : Nat) : List RamdiskFragment → Option Bytes
  | [] =>
      some []
  | entry :: rest => do
      let size ← packInteger 4 entry.content.length
      let here ← packInteger 4 offset
      let ramdiskType ← packInteger 4 entry.ramdiskType
      let boardId ← entry.boardId.mapM (packInteger 4)
      let others ← tableEntries (offset + entry.content.length) rest
      some (size ++ here ++ ramdiskType ++
        packString vendorRamdiskNameSize entry.ramdiskName ++
          boardId.flatten ++ others)

/-- Everything up to the end of the device tree section. -/
def sectionsTo (args : VendorBootArguments) (header : Bytes) : Bytes :=
  padFile args.pagesize (padFile args.pagesize header ++ args.ramdisks) ++
    args.dtb

/--
`main` of `mkbootimg.py` with `--vendor_boot`

Without `--dtb` the section is empty and its padding nothing.
-/
def writeVendorBoot (args : VendorBootArguments) : Option Bytes :=
  if args.pagesize ∈ pageSizes ∧
      (args.headerVersion = 3 ∨ args.headerVersion = 4) then do
    let header ← args.header
    let image := padFile args.pagesize (args.sectionsTo header)
    if 3 < args.headerVersion then
      let entries ← tableEntries 0 args.fragments
      some (padFile args.pagesize
        (padFile args.pagesize (image ++ entries) ++ args.vendorBootconfig))
    else
      some image
  else
    none

end VendorBootArguments

/-! ## Reading -/

/-- `unpack('I', ..)` of the field at an offset -/
def readInteger (offset : Nat) (image : Bytes) : Option Nat :=
  let field := slice offset 4 image
  if field.length = 4 then some (ofLittleEndian field) else none

/--
The file `dtb` that `unpack_vendor_boot_image` extracts.

Whether the other files can be extracted is left open.
-/
def unpackDtb (image : Bytes) : Option Bytes := do
  let pageSize ← readInteger 12 image
  let ramdiskSize ← readInteger 24 image
  let headerSize ← readInteger 2096 image
  let dtbSize ← readInteger 2100 image
  if slice 0 8 image = vendorBootMagic ∧ 0 < pageSize ∧ 0 < dtbSize then
    some
      (slice
        (pageSize * (getNumberOfPages headerSize pageSize +
          getNumberOfPages ramdiskSize pageSize))
        dtbSize image)
  else
    none

/-! ## Sections -/

@[simp] theorem length_packString (width : Nat) (text : Bytes) :
    (packString width text).length = width := by
  simp only [packString, List.length_append, List.length_take,
    List.length_replicate]
  omega

theorem length_packInteger
    {width : Nat}
    {value : Int}
    {bytes : Bytes}
    (packed : packInteger width value = some bytes) :
    bytes.length = width := by
  unfold packInteger at packed
  split at packed
  · rw [← Option.some.inj packed, length_littleEndian]
  · cases packed

/-- A packed size is read back. -/
theorem ofLittleEndian_packInteger
    {value : Nat}
    {bytes : Bytes}
    (packed : packInteger 4 value = some bytes) :
    ofLittleEndian bytes = value := by
  unfold packInteger at packed
  split at packed
  · rename_i bounds
    rw [← Option.some.inj packed, ofLittleEndian_littleEndian,
      Int.toNat_natCast]
    exact Nat.mod_eq_of_lt (by exact_mod_cast bounds.2)
  · cases packed

/-- Padding goes up to the next whole page. -/
theorem length_padFile
    {padding : Nat}
    (member : padding ∈ pageSizes)
    (file : Bytes) :
    (padFile padding file).length =
      padding * getNumberOfPages file.length padding := by
  have masked (value exponent : Nat) :
      value &&& (2 ^ exponent - 1) = value % 2 ^ exponent :=
    Nat.and_two_pow_sub_one_eq_mod value exponent
  simp only [padFile, getNumberOfPages, List.length_append,
    List.length_replicate]
  simp only [pageSizes, List.mem_cons, List.not_mem_nil, or_false]
    at member
  rcases member with rfl | rfl | rfl | rfl
  · have mask (value : Nat) : value &&& (2048 - 1) = value % 2048 :=
      masked value 11
    rw [mask, mask]
    omega
  · have mask (value : Nat) : value &&& (4096 - 1) = value % 4096 :=
      masked value 12
    rw [mask, mask]
    omega
  · have mask (value : Nat) : value &&& (8192 - 1) = value % 8192 :=
      masked value 13
    rw [mask, mask]
    omega
  · have mask (value : Nat) : value &&& (16384 - 1) = value % 16384 :=
      masked value 14
    rw [mask, mask]
    omega

theorem padFile_eq_append (padding : Nat) (file : Bytes) :
    ∃ zeros, padFile padding file = file ++ zeros :=
  ⟨_, rfl⟩

/-- The fields of a header that `unpackDtb` looks at. -/
structure HeaderFields
    (args : VendorBootArguments)
    (header : Bytes) : Prop where
  length : header.length = args.headerSize
  magic : slice 0 8 header = vendorBootMagic
  pagesize : readInteger 12 header = some args.pagesize
  ramdiskSize : readInteger 24 header = some args.ramdisks.length
  headerSize : readInteger 2096 header = some args.headerSize
  dtbSize : readInteger 2100 header = some args.dtb.length

theorem readInteger_skip
    {front : Bytes}
    {skip : Nat}
    (length : front.length = skip)
    {offset : Nat}
    (behind : skip ≤ offset)
    (back : Bytes) :
    readInteger offset (front ++ back) =
      readInteger (offset - skip) back := by
  have dropped : (front ++ back).drop offset = back.drop (offset - skip) := by
    rw [List.drop_append, length, List.drop_of_length_le (by omega),
      List.nil_append]
  rw [readInteger, readInteger, slice, slice, dropped]

theorem readInteger_front
    {offset : Nat}
    (here : offset = 0)
    {field : Bytes}
    {value : Nat}
    (packed : packInteger 4 value = some field)
    (back : Bytes) :
    readInteger offset (field ++ back) = some value := by
  subst here
  have wide := length_packInteger packed
  rw [readInteger, slice, List.drop_zero, List.take_left' wide]
  simp only [wide, ↓reduceIte, ofLittleEndian_packInteger packed]

theorem length_tableFields
    {args : VendorBootArguments}
    {table : Bytes}
    (packed : args.tableFields = some table) :
    2112 + table.length = args.headerSize := by
  unfold VendorBootArguments.tableFields at packed
  unfold VendorBootArguments.headerSize
  split at packed
  · simp only [Option.bind_eq_bind, Option.bind_eq_some_iff] at packed
    obtain ⟨tableSize, first, entryNum, second, entrySize, third,
      bootconfigSize, fourth, whole⟩ := packed
    rw [← Option.some.inj whole]
    simp only [List.length_append, length_packInteger first,
      length_packInteger second, length_packInteger third,
      length_packInteger fourth]
    rename_i version
    rw [if_pos version]
  · rename_i version
    rw [← Option.some.inj packed, if_neg version]
    rfl

theorem headerFields_of_header
    {args : VendorBootArguments}
    {header : Bytes}
    (written : args.header = some header) :
    HeaderFields args header := by
  simp only [VendorBootArguments.header, Option.bind_eq_bind,
    Option.bind_eq_some_iff] at written
  obtain ⟨version, versionPacked, pagesize, pagesizePacked, kernel,
    kernelPacked, ramdisk, ramdiskPacked, ramdiskSize, ramdiskSizePacked,
    tags, tagsPacked, headerSize, headerSizePacked, dtbSize, dtbSizePacked,
    dtbAddress, dtbAddressPacked, table, tablePacked, whole⟩ := written
  have magicLength : vendorBootMagic.length = 8 := rfl
  have versionLength := length_packInteger versionPacked
  have pagesizeLength := length_packInteger pagesizePacked
  have kernelLength := length_packInteger kernelPacked
  have ramdiskLength := length_packInteger ramdiskPacked
  have ramdiskSizeLength := length_packInteger ramdiskSizePacked
  have tagsLength := length_packInteger tagsPacked
  have headerSizeLength := length_packInteger headerSizePacked
  have dtbSizeLength := length_packInteger dtbSizePacked
  have dtbAddressLength := length_packInteger dtbAddressPacked
  have cmdlineLength :=
    length_packString vendorBootArgsSize args.vendorCmdline
  have boardLength := length_packString vendorBootNameSize args.board
  have total := length_tableFields tablePacked
  rw [Option.some.injEq] at whole
  subst whole
  constructor
  · simp only [List.length_append, magicLength, versionLength,
      pagesizeLength, kernelLength, ramdiskLength, ramdiskSizeLength,
      length_packString, tagsLength, headerSizeLength, dtbSizeLength,
      dtbAddressLength, vendorBootArgsSize, vendorBootNameSize]
    omega
  · rw [slice, List.drop_zero, List.take_left' magicLength]
  · rw [readInteger_skip magicLength (by decide),
      readInteger_skip versionLength (by decide),
      readInteger_front (by decide) pagesizePacked]
  · rw [readInteger_skip magicLength (by decide),
      readInteger_skip versionLength (by decide),
      readInteger_skip pagesizeLength (by decide),
      readInteger_skip kernelLength (by decide),
      readInteger_skip ramdiskLength (by decide),
      readInteger_front (by decide) ramdiskSizePacked]
  · rw [readInteger_skip magicLength (by decide),
      readInteger_skip versionLength (by decide),
      readInteger_skip pagesizeLength (by decide),
      readInteger_skip kernelLength (by decide),
      readInteger_skip ramdiskLength (by decide),
      readInteger_skip ramdiskSizeLength (by decide),
      readInteger_skip cmdlineLength (by decide),
      readInteger_skip tagsLength (by decide),
      readInteger_skip boardLength (by decide),
      readInteger_front (by decide) headerSizePacked]
  · rw [readInteger_skip magicLength (by decide),
      readInteger_skip versionLength (by decide),
      readInteger_skip pagesizeLength (by decide),
      readInteger_skip kernelLength (by decide),
      readInteger_skip ramdiskLength (by decide),
      readInteger_skip ramdiskSizeLength (by decide),
      readInteger_skip cmdlineLength (by decide),
      readInteger_skip tagsLength (by decide),
      readInteger_skip boardLength (by decide),
      readInteger_skip headerSizeLength (by decide),
      readInteger_front (by decide) dtbSizePacked]

/-- Where the device tree section ends. -/
def VendorBootArguments.dtbEnd (args : VendorBootArguments) : Nat :=
  args.pagesize * (getNumberOfPages args.headerSize args.pagesize +
    getNumberOfPages args.ramdisks.length args.pagesize) + args.dtb.length

/-- The header and the sections are the front of what is written. -/
theorem writeVendorBoot_eq_some
    {args : VendorBootArguments}
    {payload : Bytes}
    (written : args.writeVendorBoot = some payload) :
    args.pagesize ∈ pageSizes ∧
      ∃ header back,
        HeaderFields args header ∧
          payload = args.sectionsTo header ++ back := by
  unfold VendorBootArguments.writeVendorBoot at written
  split at written
  · rename_i accepted
    simp only [Option.bind_eq_bind, Option.bind_eq_some_iff] at written
    obtain ⟨header, headerWritten, written⟩ := written
    refine ⟨accepted.1, header, ?_⟩
    have fields := headerFields_of_header headerWritten
    obtain ⟨zeros, padded⟩ :=
      padFile_eq_append args.pagesize (args.sectionsTo header)
    split at written
    · simp only [Option.bind_eq_some_iff, Option.some.injEq] at written
      obtain ⟨entries, -, rfl⟩ := written
      obtain ⟨first, firstPadded⟩ := padFile_eq_append args.pagesize
        (padFile args.pagesize (args.sectionsTo header) ++ entries)
      obtain ⟨second, secondPadded⟩ := padFile_eq_append args.pagesize
        (padFile args.pagesize
            (padFile args.pagesize (args.sectionsTo header) ++ entries) ++
          args.vendorBootconfig)
      refine ⟨zeros ++ (entries ++ (first ++
        (args.vendorBootconfig ++ second))), fields, ?_⟩
      rw [secondPadded, firstPadded, padded]
      simp only [List.append_assoc]
    · exact ⟨zeros, fields, (Option.some.inj written).symm.trans padded⟩
  · cases written

/-- A whole number of pages in front of a section stays in front of it. -/
theorem getNumberOfPages_add
    {padding : Nat}
    (member : padding ∈ pageSizes)
    (pages size : Nat) :
    getNumberOfPages (padding * pages + size) padding =
      pages + getNumberOfPages size padding := by
  have positive : 0 < padding := by
    simp only [pageSizes, List.mem_cons, List.not_mem_nil, or_false]
      at member
    omega
  unfold getNumberOfPages
  rw [Nat.add_assoc, Nat.add_sub_assoc (by omega), Nat.mul_add_div positive,
    Nat.add_sub_assoc (by omega)]

/-- Where the sections in front of the device tree end. -/
theorem length_sectionsTo
    {args : VendorBootArguments}
    (member : args.pagesize ∈ pageSizes)
    {header : Bytes}
    (fields : HeaderFields args header) :
    (args.sectionsTo header).length = args.dtbEnd := by
  simp only [VendorBootArguments.sectionsTo, List.length_append,
    length_padFile member, getNumberOfPages_add member, fields.length,
    VendorBootArguments.dtbEnd]

/-- A written image reaches to the end of the section. -/
theorem dtbEnd_le_length
    {args : VendorBootArguments}
    {payload : Bytes}
    (written : args.writeVendorBoot = some payload) :
    args.dtbEnd ≤ payload.length := by
  obtain ⟨member, header, back, fields, rfl⟩ :=
    writeVendorBoot_eq_some written
  rw [List.length_append, length_sectionsTo member fields]
  exact Nat.le_add_right _ _

theorem readInteger_congr
    {first second : Bytes}
    {bound : Nat}
    (agree : first.take bound = second.take bound)
    {offset : Nat}
    (inside : offset + 4 ≤ bound) :
    readInteger offset first = readInteger offset second := by
  rw [readInteger, readInteger, slice_congr agree inside]

/-- The device tree section of an image whose front is as it was written. -/
theorem unpackDtb_of_take_eq
    {args : VendorBootArguments}
    {payload image : Bytes}
    (written : args.writeVendorBoot = some payload)
    (intact : image.take args.dtbEnd = payload.take args.dtbEnd)
    (nonempty : 0 < args.dtb.length) :
    unpackDtb image = some args.dtb := by
  obtain ⟨member, header, back, fields, rfl⟩ :=
    writeVendorBoot_eq_some written
  have length := length_sectionsTo member fields
  have positive : 0 < args.pagesize := by
    simp only [pageSizes, List.mem_cons, List.not_mem_nil, or_false]
      at member
    omega
  obtain ⟨zeros, padded⟩ := padFile_eq_append args.pagesize header
  obtain ⟨more, paddedMore⟩ := padFile_eq_append args.pagesize
    (padFile args.pagesize header ++ args.ramdisks)
  -- every field lies in the header, and the header in front of the section
  have headerFront :
      args.sectionsTo header ++ back =
        header ++ (zeros ++ (args.ramdisks ++ (more ++
          (args.dtb ++ back)))) := by
    rw [VendorBootArguments.sectionsTo, paddedMore, padded]
    simp only [List.append_assoc]
  have headerSize : 2112 ≤ header.length := by
    rw [fields.length, VendorBootArguments.headerSize]
    split <;> decide
  have headerInside : header.length ≤ args.dtbEnd := by
    rw [← length, VendorBootArguments.sectionsTo, paddedMore, padded]
    simp only [List.length_append]
    omega
  have front :
      image.take header.length = header.take header.length := by
    have shorter (bytes : Bytes) :
        bytes.take header.length =
          (bytes.take args.dtbEnd).take header.length := by
      rw [List.take_take, Nat.min_eq_left headerInside]
    rw [shorter image, intact, ← shorter, headerFront, List.take_left,
      List.take_length]
  have magic : slice 0 8 image = vendorBootMagic :=
    (slice_congr front (by omega)).trans fields.magic
  have field {offset value : Nat}
      (inside : offset + 4 ≤ 2112)
      (inHeader : readInteger offset header = some value) :
      readInteger offset image = some value :=
    (readInteger_congr front (by omega)).trans inHeader
  have offset :
      (padFile args.pagesize
          (padFile args.pagesize header ++ args.ramdisks)).length =
        args.pagesize *
          (getNumberOfPages args.headerSize args.pagesize +
            getNumberOfPages args.ramdisks.length args.pagesize) := by
    rw [length_padFile member, List.length_append, length_padFile member,
      getNumberOfPages_add member, fields.length]
  have inside :
      args.pagesize *
            (getNumberOfPages args.headerSize args.pagesize +
              getNumberOfPages args.ramdisks.length args.pagesize) +
          args.dtb.length ≤
        args.dtbEnd :=
    Nat.le_refl _
  rw [unpackDtb, field (by decide) fields.pagesize,
    field (by decide) fields.ramdiskSize,
    field (by decide) fields.headerSize, field (by decide) fields.dtbSize]
  simp only [Option.bind_eq_bind, Option.bind_some]
  rw [if_pos ⟨magic, positive, nonempty⟩, slice_congr intact inside,
    VendorBootArguments.sectionsTo, List.append_assoc,
    slice_middle offset rfl]

end OverclockBuilder
