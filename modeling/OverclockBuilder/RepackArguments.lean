import Mathlib.Data.List.DropRight
import OverclockBuilder.ArgumentText
import OverclockBuilder.BashText
import OverclockBuilder.CNumber

namespace OverclockBuilder

open RadixText WordText ArgumentText BashText CNumber

/-!
# The arguments of mkbootimg

`unpack_bootimg.py --format=mkbootimg` writes the arguments that rebuild the
image as shell text.  The script replaces the operand of `--dtb` with `sed` and
expands the text unquoted, so the words are cut at blanks and globbed, and
quotes stay part of them.
-/

/-- An entry of the vendor ramdisk table. -/
structure VendorRamdisk where
  ramdiskType : Nat
  ramdiskName : Text
  boardId : List Nat
  deriving Repr, DecidableEq

/-- The fields of `VendorBootImageInfoFormatter` the arguments are made of. -/
structure VendorBootInfo where
  headerVersion : Nat
  pageSize : Nat
  kernelLoadAddress : Nat
  ramdiskLoadAddress : Nat
  tagsLoadAddress : Nat
  dtbLoadAddress : Nat
  cmdline : Text
  productName : Text
  dtbSize : Nat
  vendorRamdiskTable : List VendorRamdisk
  imageDir : Text
  deriving Repr, DecidableEq

/-- `f'{value:#0WIDTHx}'` -/
def formatHex (width value : Nat) : Text :=
  let digits := printHex value
  "0x".toList ++ List.replicate (width - 2 - digits.length) '0' ++ digits

/-- `f'vendor_ramdisk{idx:02}'` -/
def outputRamdiskName (idx : Nat) : Text :=
  let digits := printUnsigned idx
  "vendor_ramdisk".toList ++
    List.replicate (2 - digits.length) '0' ++ digits

/-- `os.path.join` of a directory and a plain name -/
def pathJoin (directory name : Text) : Text :=
  directory ++ '/' :: name

/-! ## format_mkbootimg_argument -/

namespace VendorBootInfo

/-- The arguments in front of `--vendor_cmdline`. -/
def addressArguments (info : VendorBootInfo) : List Text :=
  ["--header_version".toList, printUnsigned info.headerVersion,
    "--pagesize".toList, formatHex 10 info.pageSize,
    "--base".toList, formatHex 10 0,
    "--kernel_offset".toList, formatHex 10 info.kernelLoadAddress,
    "--ramdisk_offset".toList, formatHex 10 info.ramdiskLoadAddress,
    "--tags_offset".toList, formatHex 10 info.tagsLoadAddress,
    "--dtb_offset".toList, formatHex 18 info.dtbLoadAddress]

/-- `--board_id0` and so on, for the words that are not zero. -/
def boardIdArguments (boardId : List Nat) : List Text :=
  boardId.zipIdx.flatMap fun (word, idx) =>
    if word = 0 then
      []
    else
      ["--board_id".toList ++ printUnsigned idx, formatHex 10 word]

/-- The arguments of one vendor ramdisk fragment. -/
def fragmentArguments
    (info : VendorBootInfo)
    (entry : VendorRamdisk)
    (idx : Nat) :
    List Text :=
  ["--ramdisk_type".toList, printUnsigned entry.ramdiskType,
      "--ramdisk_name".toList, entry.ramdiskName] ++
    boardIdArguments entry.boardId ++
      ["--vendor_ramdisk_fragment".toList,
        pathJoin info.imageDir (outputRamdiskName idx)]

/-- The arguments behind `--dtb`. -/
def ramdiskArguments (info : VendorBootInfo) : List Text :=
  if 3 < info.headerVersion then
    ["--vendor_bootconfig".toList,
        pathJoin info.imageDir "bootconfig".toList] ++
      info.vendorRamdiskTable.zipIdx.flatMap fun (entry, idx) =>
        info.fragmentArguments entry idx
  else
    ["--vendor_ramdisk".toList,
      pathJoin info.imageDir "vendor_ramdisk".toList]

/-- The argument list around a given `--dtb` operand. -/
def argumentsWithDtb (info : VendorBootInfo) (dtb : Text) : List Text :=
  info.addressArguments ++
    ["--vendor_cmdline".toList, info.cmdline,
      "--board".toList, info.productName] ++
      (if 0 < info.dtbSize then ["--dtb".toList, dtb] else []) ++
        info.ramdiskArguments

/-- `VendorBootImageInfoFormatter.format_mkbootimg_argument` -/
def formatMkbootimgArgument (info : VendorBootInfo) : List Text :=
  info.argumentsWithDtb (pathJoin info.imageDir "dtb".toList)

end VendorBootInfo

/-! ## The script -/

/-- `$(...)` drops the newlines at the end of the output. -/
def commandSubstitution (output : Text) : Text :=
  output.rdropWhile (· = '\n')

/-- `print(shlex.join(..))` into `mkbootimg_args.txt` -/
def mkbootimgArgsTxt (info : VendorBootInfo) : Text :=
  shlexJoin info.formatMkbootimgArgument ++ ['\n']

/-- `sed "s|--dtb [^ ]*|--dtb DTB|"` on `printf '%s\n' TEXT` -/
def sedDtb (dtb text : Text) : Text :=
  (text.splitOn '\n').flatMap fun line =>
    substituteOperand "--dtb".toList dtb line ++ ['\n']

/-- `$WORK/dtb_oc` -/
def dtbOc (work : Text) : Text :=
  pathJoin work "dtb_oc".toList

/-- The text of `$ARGS`. -/
def argsText (info : VendorBootInfo) (work : Text) : Text :=
  commandSubstitution
    (sedDtb (dtbOc work) (commandSubstitution (mkbootimgArgsTxt info)))

/-- The words an unquoted `$ARGS` becomes. -/
def receivedArguments
    (glob : Text → List Text)
    (info : VendorBootInfo)
    (work : Text) :
    List Text :=
  (words isIfsBlank (argsText info work)).flatMap glob

/--
What pathname expansion does to a word depends on the directory it runs in;
words without special characters stay as they are.
-/
def LawfulGlob (glob : Text → List Text) : Prop :=
  ∀ word, Plain word → glob word = [word]

/-- The characters of the script's work path. -/
def isWorkCharacter (character : Char) : Bool :=
  character.isAlphanum || ['.', '_', '-', '/'].contains character

/-- The argument list with `$WORK/dtb_oc` as the operand of `--dtb`. -/
def expectedArguments (info : VendorBootInfo) (work : Text) : List Text :=
  info.argumentsWithDtb (dtbOc work)

/-! ## Plain arguments -/

theorem isSafe_of_isAlphanum
    {character : Char}
    (alphanumeric : character.isAlphanum = true) :
    isSafe character = true := by
  simp [isSafe, alphanumeric]

theorem plain_printUnsigned (value : Nat) : Plain (printUnsigned value) := by
  refine ⟨Nat.toDigits_ne_nil, ?_⟩
  rw [List.all_eq_true]
  intro digit member
  exact isSafe_of_isAlphanum
    (mem_toDigits (by decide) (by decide) member).1

theorem plain_formatHex (width value : Nat) :
    Plain (formatHex width value) := by
  refine ⟨by simp [formatHex], ?_⟩
  rw [List.all_eq_true]
  intro digit member
  simp only [formatHex, List.mem_append, List.mem_replicate] at member
  rcases member with (marker | ⟨-, rfl⟩) | shown
  · have radix : ∀ mark ∈ "0x".toList, isSafe mark = true :=
      List.all_eq_true.mp (by decide)
    exact radix digit marker
  · decide
  · exact isSafe_of_isAlphanum
      (mem_toDigits (by decide) (by decide) shown).1

theorem plain_pathJoin
    {directory name : Text}
    (plainDirectory : directory.all isSafe = true)
    (plainName : name.all isSafe = true) :
    Plain (pathJoin directory name) := by
  refine ⟨by simp [pathJoin], ?_⟩
  rw [pathJoin, List.all_append, List.all_cons, plainDirectory, plainName]
  decide

theorem plain_outputRamdiskName (idx : Nat) :
    (outputRamdiskName idx).all isSafe = true := by
  have prefixSafe : ("vendor_ramdisk".toList).all isSafe = true := by
    decide +kernel
  have zeros (count : Nat) :
      (List.replicate count '0').all isSafe = true := by
    rw [List.all_eq_true]
    intro digit member
    rw [(List.mem_replicate.mp member).2]
    decide
  have digits := (plain_printUnsigned idx).safe
  unfold outputRamdiskName
  simp only [List.all_append, prefixSafe, zeros, digits, Bool.and_self]

/-- Work paths need no quotes. -/
theorem isSafe_of_isWorkCharacter
    {work : Text}
    (plainWork : work.all isWorkCharacter = true) :
    work.all isSafe = true := by
  rw [List.all_eq_true] at plainWork ⊢
  intro character member
  have allowed := plainWork character member
  simp only [isWorkCharacter, Bool.or_eq_true, List.contains_iff_mem]
    at allowed
  rcases allowed with alphanumeric | other
  · exact isSafe_of_isAlphanum alphanumeric
  · have safe : ∀ mark ∈ ['.', '_', '-', '/'], isSafe mark = true :=
      List.all_eq_true.mp (by decide)
    exact safe character other

/-- A blank is never safe. -/
theorem isSafe_of_isIfsBlank
    (character : Char)
    (blank : isIfsBlank character = true) :
    isSafe character = false := by
  simp only [isIfsBlank, Bool.or_eq_true, decide_eq_true_eq] at blank
  rcases blank with (rfl | rfl) | rfl <;> decide

/-! ## Which arguments vary -/

/-- An argument that `sed` takes for the flag `--dtb`. -/
def EndsInDtb (argument : Text) : Prop :=
  "--dtb".toList.isSuffixOf argument = true

instance (argument : Text) : Decidable (EndsInDtb argument) :=
  inferInstanceAs (Decidable (_ = true))

theorem not_endsInDtb_of_dashless
    {argument : Text}
    (dashless : '-' ∉ argument) :
    ¬ EndsInDtb argument := by
  unfold EndsInDtb
  rw [List.isSuffixOf_iff_suffix]
  intro suffix
  exact dashless (suffix.subset (by decide))

theorem dashless_toDigits
    {base value : Nat}
    (atLeastTwo : 1 < base)
    (baseBound : base ≤ 16) :
    '-' ∉ Nat.toDigits base value := by
  intro member
  exact absurd (mem_toDigits atLeastTwo baseBound member).1 (by decide)

theorem dashless_formatHex (width value : Nat) :
    '-' ∉ formatHex width value := by
  simp only [formatHex, List.mem_append, List.mem_replicate]
  rintro ((marker | ⟨-, zero⟩) | shown)
  · exact absurd marker (by decide)
  · exact absurd zero (by decide)
  · exact dashless_toDigits (by decide) (by decide) shown

/-- The arguments in front of `--vendor_cmdline` are plain, and no `--dtb`. -/
theorem addressArguments_plain
    (info : VendorBootInfo)
    {argument : Text}
    (member : argument ∈ info.addressArguments) :
    Plain argument ∧ ¬ EndsInDtb argument := by
  have flag
      (text : Text)
      (plain : Plain text)
      (other : ¬ EndsInDtb text) :
      Plain text ∧ ¬ EndsInDtb text :=
    ⟨plain, other⟩
  have hex (width value : Nat) :
      Plain (formatHex width value) ∧
        ¬ EndsInDtb (formatHex width value) :=
    ⟨plain_formatHex width value,
      not_endsInDtb_of_dashless (dashless_formatHex width value)⟩
  have decimal (value : Nat) :
      Plain (printUnsigned value) ∧ ¬ EndsInDtb (printUnsigned value) :=
    ⟨plain_printUnsigned value,
      not_endsInDtb_of_dashless
        (dashless_toDigits (by decide) (by decide))⟩
  simp only [VendorBootInfo.addressArguments, List.mem_cons,
    List.not_mem_nil, or_false] at member
  rcases member with rfl | rfl | rfl | rfl | rfl | rfl | rfl | rfl | rfl |
    rfl | rfl | rfl | rfl | rfl <;>
    first
      | exact hex _ _
      | exact decimal _
      | exact flag _ (by decide +kernel) (by decide +kernel)

theorem boardIdArguments_plain
    {boardId : List Nat}
    {argument : Text}
    (member : argument ∈ VendorBootInfo.boardIdArguments boardId) :
    Plain argument := by
  have option (idx : Nat) :
      Plain ("--board_id".toList ++ printUnsigned idx) := by
    have safe : ("--board_id".toList).all isSafe = true := by
      decide +kernel
    refine ⟨by simp, ?_⟩
    rw [List.all_append, safe, (plain_printUnsigned idx).safe]
    rfl
  simp only [VendorBootInfo.boardIdArguments, List.mem_flatMap]
    at member
  obtain ⟨⟨word, idx⟩, -, inside⟩ := member
  split at inside
  · cases inside
  · simp only [List.mem_cons, List.not_mem_nil, or_false] at inside
    rcases inside with rfl | rfl
    · exact option idx
    · exact plain_formatHex 10 word

/-- Behind `--dtb` only the ramdisk names can need quotes. -/
theorem ramdiskArguments_plain_iff
    {info : VendorBootInfo}
    (plainDir : info.imageDir.all isSafe = true) :
    (∀ argument ∈ info.ramdiskArguments, Plain argument) ↔
      (3 < info.headerVersion →
        ∀ entry ∈ info.vendorRamdiskTable, Plain entry.ramdiskName) := by
  have path (name : Text) (safe : name.all isSafe = true) :
      Plain (pathJoin info.imageDir name) :=
    plain_pathJoin plainDir safe
  unfold VendorBootInfo.ramdiskArguments
  split
  · rename_i table
    refine ⟨?_, ?_⟩
    · intro plain _ entry member
      obtain ⟨idx, bound, rfl⟩ := List.mem_iff_getElem.mp member
      have inTable :
          (info.vendorRamdiskTable[idx], idx) ∈
            info.vendorRamdiskTable.zipIdx := by
        rw [List.mk_mem_zipIdx_iff_getElem?]
        exact List.getElem?_eq_getElem bound
      apply plain
      rw [List.mem_append, List.mem_flatMap]
      exact .inr ⟨_, inTable, by simp [VendorBootInfo.fragmentArguments]⟩
    · intro names argument member
      rw [List.mem_append, List.mem_flatMap] at member
      rcases member with config | ⟨⟨entry, idx⟩, inTable, inside⟩
      · simp only [List.mem_cons, List.not_mem_nil, or_false] at config
        rcases config with rfl | rfl
        · decide +kernel
        · exact path _ (by decide +kernel)
      · have name := names table entry
          (List.fst_mem_of_mem_zipIdx inTable)
        simp only [VendorBootInfo.fragmentArguments, List.mem_append,
          List.mem_cons, List.not_mem_nil, or_false] at inside
        rcases inside with
          ((rfl | rfl | rfl | rfl) | board) | rfl | rfl
        · decide +kernel
        · exact plain_printUnsigned entry.ramdiskType
        · decide +kernel
        · exact name
        · exact boardIdArguments_plain board
        · decide +kernel
        · exact path _ (plain_outputRamdiskName idx)
  · rename_i noTable
    refine ⟨fun _ table => (noTable table).elim, ?_⟩
    intro _ argument member
    simp only [List.mem_cons, List.not_mem_nil, or_false] at member
    rcases member with rfl | rfl
    · decide +kernel
    · exact path _ (by decide +kernel)

end OverclockBuilder
