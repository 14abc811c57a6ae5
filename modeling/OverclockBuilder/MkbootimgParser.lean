import OverclockBuilder.ArgumentParser
import OverclockBuilder.DtTableIdentity
import OverclockBuilder.VendorBootUnpack

namespace OverclockBuilder

open RadixText BytePacking CNumber ArgumentParser

/-!
# The command line of mkbootimg.py

`parse_cmdline` for command lines that write a vendor boot image and no other
one, with the groups of ramdisk options of version 4.
-/

/-! ## Values -/

/-- The digits of `int(text, 0)` behind the sign; underscores are left out. -/
def parseDigits : Text → Option Nat
  | '0' :: marker :: digits =>
      if marker = 'x' ∨ marker = 'X' then
        pyInt 16 digits
      else if marker = 'o' ∨ marker = 'O' then
        pyInt 8 digits
      else if marker = 'b' ∨ marker = 'B' then
        pyInt 2 digits
      else if (marker :: digits).all (· = '0') then
        some 0
      else
        none
  | digits =>
      pyInt 10 digits

/-- `parse_int` -/
def parseInt (text : Text) : Option Int :=
  let (negative, digits) :=
    sign ((text.dropWhile isSpace).rdropWhile isSpace)
  (parseDigits digits).map fun value =>
    if negative then -(value : Int) else value

/-- `parse_vendor_ramdisk_type` -/
def parseVendorRamdiskType (text : Text) : Option Int :=
  let lowercase := text.map Char.toLower
  if lowercase = "none".toList then
    some 0
  else if lowercase = "platform".toList then
    some 1
  else if lowercase = "recovery".toList then
    some 2
  else if lowercase = "dlkm".toList then
    some 3
  else
    parseInt text

/-- A value of the type `AsciizBytes(bufsize=width)`. -/
structure Asciiz (width : Nat) where
  text : Text
  fits : FitsAsciiz width text

/-- `AsciizBytes.__call__`; no word of a command line has a NUL. -/
def parseAsciiz (width : Nat) (word : Text) : Option (Asciiz width) :=
  if fits : FitsAsciiz width word then some ⟨word, fits⟩ else none

def Asciiz.bytes (value : Asciiz width) : Bytes :=
  asciiz value.text

/-! ## The parser of the image -/

/-- `BOOT_ARGS_SIZE` -/
def bootArgsSize : Nat :=
  512

/-- `BOOT_EXTRA_ARGS_SIZE` -/
def bootExtraArgsSize : Nat :=
  1024

/-- A number of up to three digits, and what follows it. -/
def shortNumber (text : Text) : Text × Text :=
  let digits := (text.take 3).takeWhile Char.isDigit
  (digits, text.drop digits.length)

/-- The numbers `parse_os_version` finds have seven bits. -/
def acceptsOsVersion : (numbers : Nat) → Text → Bool
  | 0, _ =>
      true
  | numbers + 1, text =>
      let (digits, behind) := shortNumber text
      if digits = [] then
        true
      else
        numeral 10 digits < 128 &&
          match behind with
          | '.' :: rest => acceptsOsVersion numbers rest
          | _ => true

/-- The year and the month `parse_os_patch_level` finds are in range. -/
def acceptsOsPatchLevel (text : Text) : Bool :=
  let year := text.take 4
  let month := (text.drop 5).take 2
  if year.length = 4 ∧ allDigits year ∧ text[4]? = some '-' ∧
      month.length = 2 ∧ allDigits month then
    2000 ≤ numeral 10 year && numeral 10 year < 2128 &&
      (0 < numeral 10 month && numeral 10 month ≤ 12)
  else
    true

/-- The options of `mkbootimg.py`. -/
inductive BootOption where
  | help
  | kernel
  | ramdisk
  | second
  | dtb
  | recoveryDtbo
  | recoveryAcpio
  | cmdline
  | vendorCmdline
  | base
  | kernelOffset
  | ramdiskOffset
  | secondOffset
  | dtbOffset
  | osVersion
  | osPatchLevel
  | tagsOffset
  | board
  | pagesize
  | id
  | headerVersion
  | output
  | vendorBoot
  | vendorRamdisk
  | vendorBootconfig
  | gkiSigningAlgorithm
  | gkiSigningKey
  | gkiSigningSignatureArgs
  | gkiSigningAvbtoolPath
  deriving Repr, DecidableEq

def bootOptions : Options BootOption :=
  [("-h".toList, .help), ("--help".toList, .help),
    ("--kernel".toList, .kernel), ("--ramdisk".toList, .ramdisk),
    ("--second".toList, .second), ("--dtb".toList, .dtb),
    ("--recovery_dtbo".toList, .recoveryDtbo),
    ("--recovery_acpio".toList, .recoveryAcpio),
    ("--cmdline".toList, .cmdline),
    ("--vendor_cmdline".toList, .vendorCmdline),
    ("--base".toList, .base), ("--kernel_offset".toList, .kernelOffset),
    ("--ramdisk_offset".toList, .ramdiskOffset),
    ("--second_offset".toList, .secondOffset),
    ("--dtb_offset".toList, .dtbOffset),
    ("--os_version".toList, .osVersion),
    ("--os_patch_level".toList, .osPatchLevel),
    ("--tags_offset".toList, .tagsOffset), ("--board".toList, .board),
    ("--pagesize".toList, .pagesize), ("--id".toList, .id),
    ("--header_version".toList, .headerVersion), ("-o".toList, .output),
    ("--output".toList, .output), ("--vendor_boot".toList, .vendorBoot),
    ("--vendor_ramdisk".toList, .vendorRamdisk),
    ("--vendor_bootconfig".toList, .vendorBootconfig),
    ("--gki_signing_algorithm".toList, .gkiSigningAlgorithm),
    ("--gki_signing_key".toList, .gkiSigningKey),
    ("--gki_signing_signature_args".toList, .gkiSigningSignatureArgs),
    ("--gki_signing_avbtool_path".toList, .gkiSigningAvbtoolPath)]

def bootParser : Parser BootOption where
  options := bootOptions
  isSwitch := fun option => option = .help || option = .id

/-- `version_parser` -/
def versionParser : Parser Unit :=
  .ofOptions [("--header_version".toList, ())]

/-- `cmdline_size`, by the version that `version_parser` finds. -/
def cmdlineSize (words : List Text) : Option Nat := do
  let (pairs, _) ← parseKnownArgs versionParser words
  let versions ← pairs.mapM fun pair => parseInt pair.2
  if versions.getLastD 0 < 3 then
    some (bootArgsSize + bootExtraArgsSize - 1)
  else
    some (bootArgsSize + bootExtraArgsSize)

/-- The namespace of the parser, with the contents of the files it opens. -/
structure BootNamespace where
  dtb : Option Bytes
  vendorCmdline : Asciiz vendorBootArgsSize
  base : Int
  kernelOffset : Int
  ramdiskOffset : Int
  dtbOffset : Int
  tagsOffset : Int
  board : Asciiz vendorBootNameSize
  pagesize : Nat
  headerVersion : Int
  vendorBoot : Option Text
  vendorRamdisk : Option Bytes
  vendorBootconfig : Option Bytes

/-- The defaults; an empty string passes `AsciizBytes` like an argument. -/
def BootNamespace.default : BootNamespace where
  dtb := none
  vendorCmdline := ⟨[], by decide⟩
  base := 0x10000000
  kernelOffset := 0x00008000
  ramdiskOffset := 0x01000000
  dtbOffset := 0x01f00000
  tagsOffset := 0x00000100
  board := ⟨[], by decide⟩
  pagesize := 2048
  headerVersion := 0
  vendorBoot := none
  vendorRamdisk := none
  vendorBootconfig := none

/--
An option stores its value.  The values that only boot images have are checked
and dropped; an option that writes such an image is left out.
-/
def storeArgument
    (disk : Text → Option Bytes)
    (cmdlineSize : Nat)
    (arguments : BootNamespace) :
    BootOption × Text → Option BootNamespace
  | (.help, _) =>
      none
  | (.kernel, word) =>
      (disk word).map fun _ => arguments
  | (.ramdisk, word) =>
      (disk word).map fun _ => arguments
  | (.second, word) =>
      (disk word).map fun _ => arguments
  | (.recoveryDtbo, word) =>
      (disk word).map fun _ => arguments
  | (.recoveryAcpio, word) =>
      (disk word).map fun _ => arguments
  | (.cmdline, word) =>
      (parseAsciiz cmdlineSize word).map fun _ => arguments
  | (.secondOffset, word) =>
      (parseInt word).map fun _ => arguments
  | (.osVersion, word) =>
      if acceptsOsVersion 3 word then some arguments else none
  | (.osPatchLevel, word) =>
      if acceptsOsPatchLevel word then some arguments else none
  | (.id, _) =>
      some arguments
  | (.output, _) =>
      none
  | (.gkiSigningAlgorithm, _) =>
      some arguments
  | (.gkiSigningKey, _) =>
      some arguments
  | (.gkiSigningSignatureArgs, _) =>
      some arguments
  | (.gkiSigningAvbtoolPath, _) =>
      some arguments
  | (.dtb, word) =>
      (disk word).map fun content =>
        { arguments with dtb := some content }
  | (.vendorCmdline, word) =>
      (parseAsciiz vendorBootArgsSize word).map fun value =>
        { arguments with vendorCmdline := value }
  | (.base, word) =>
      (parseInt word).map fun value => { arguments with base := value }
  | (.kernelOffset, word) =>
      (parseInt word).map fun value =>
        { arguments with kernelOffset := value }
  | (.ramdiskOffset, word) =>
      (parseInt word).map fun value =>
        { arguments with ramdiskOffset := value }
  | (.dtbOffset, word) =>
      (parseInt word).map fun value => { arguments with dtbOffset := value }
  | (.tagsOffset, word) =>
      (parseInt word).map fun value => { arguments with tagsOffset := value }
  | (.board, word) =>
      (parseAsciiz vendorBootNameSize word).map fun value =>
        { arguments with board := value }
  | (.pagesize, word) =>
      -- `choices` are compared with the number
      (parseInt word).bind fun value =>
        if value ∈ pageSizes.map Int.ofNat then
          some { arguments with pagesize := value.toNat }
        else
          none
  | (.headerVersion, word) =>
      (parseInt word).map fun value =>
        { arguments with headerVersion := value }
  | (.vendorBoot, word) =>
      some { arguments with vendorBoot := some word }
  | (.vendorRamdisk, word) =>
      (disk word).map fun content =>
        { arguments with vendorRamdisk := some content }
  | (.vendorBootconfig, word) =>
      (disk word).map fun content =>
        { arguments with vendorBootconfig := some content }

/-! ## The groups of ramdisk options -/

inductive RamdiskOption where
  | ramdiskType
  | ramdiskName
  | boardId (index : Nat)
  | vendorRamdiskFragment
  deriving Repr, DecidableEq

/-- `PARSER_ARGUMENT_VENDOR_RAMDISK_FRAGMENT` -/
def vendorRamdiskFragment : Text :=
  "--vendor_ramdisk_fragment".toList

/-- `f'--board_id{i}'` -/
def boardIdFlag (index : Nat) : Text :=
  "--board_id".toList ++ printUnsigned index

def ramdiskOptions : Options RamdiskOption :=
  ("--ramdisk_type".toList, .ramdiskType) ::
    ("--ramdisk_name".toList, .ramdiskName) ::
      (vendorRamdiskFragment, .vendorRamdiskFragment) ::
        (List.range 16).map fun index => (boardIdFlag index, .boardId index)

structure RamdiskNamespace where
  ramdiskType : Int
  ramdiskName : Option (Asciiz vendorRamdiskNameSize)
  boardId : List Int
  vendorRamdiskFragment : Option Text

def RamdiskNamespace.default : RamdiskNamespace where
  ramdiskType := 0
  ramdiskName := none
  boardId := List.replicate 16 0
  vendorRamdiskFragment := none

def storeRamdiskArgument (arguments : RamdiskNamespace) :
    RamdiskOption × Text → Option RamdiskNamespace
  | (.ramdiskType, word) =>
      (parseVendorRamdiskType word).map fun value =>
        { arguments with ramdiskType := value }
  | (.ramdiskName, word) =>
      (parseAsciiz vendorRamdiskNameSize word).map fun value =>
        { arguments with ramdiskName := some value }
  | (.boardId index, word) =>
      (parseInt word).map fun value =>
        { arguments with boardId := arguments.boardId.set index value }
  | (.vendorRamdiskFragment, word) =>
      some { arguments with vendorRamdiskFragment := some word }

/-- `add_entry`; the file is read when the image is written. -/
def addEntry
    (disk : Text → Option Bytes)
    (entries : List RamdiskFragment)
    (ramdiskPath : Text)
    (ramdiskType : Int)
    (ramdiskName : Bytes)
    (boardId : List Int) :
    Option (List RamdiskFragment) :=
  let names := entries.map fun entry => strippedName entry.ramdiskName
  let stripped := strippedName ramdiskName
  if stripped ∈ vendorRamdiskNameBlocklist ∨ stripped ∈ names then
    none
  else if ∀ word ∈ boardId, 0 ≤ word ∧ word < 4294967296 then
    (disk ramdiskPath).map fun content =>
      entries ++ [⟨content, ramdiskType, ramdiskName, boardId⟩]
  else
    none

/--
The words cut behind every `--vendor_ramdisk_fragment` and its operand, and the
words behind the last.
-/
def ramdiskGroups : List Text → List (List Text) × List Text
  | [] =>
      ([], [])
  | word :: rest =>
      if word = vendorRamdiskFragment then
        match rest with
        | [] =>
            ([[word]], [])
        | operand :: behind =>
            let (groups, left) := ramdiskGroups behind
            ([word, operand] :: groups, left)
      else
        match ramdiskGroups rest with
        | ([], left) =>
            ([], word :: left)
        | (group :: groups, left) =>
            ((word :: group) :: groups, left)

/-- One turn of the loop over the groups; unknown words are refused. -/
def addGroup
    (disk : Text → Option Bytes)
    (entries : List RamdiskFragment)
    (group : List Text) :
    Option (List RamdiskFragment) := do
  let (pairs, extras) ← parseKnownArgs (.ofOptions ramdiskOptions) group
  let arguments ← pairs.foldlM storeRamdiskArgument RamdiskNamespace.default
  let ramdiskName ← arguments.ramdiskName
  let ramdiskPath ← arguments.vendorRamdiskFragment
  if extras = [] then
    addEntry disk entries ramdiskPath arguments.ramdiskType
      ramdiskName.bytes arguments.boardId
  else
    none

/-- `parse_vendor_ramdisk_args`, on the words the image parser left over -/
def parseVendorRamdiskArgs
    (disk : Text → Option Bytes)
    (vendorRamdisk : Option Bytes)
    (words : List Text) :
    Option (List RamdiskFragment) :=
  let platform : List RamdiskFragment :=
    vendorRamdisk.toList.map fun content =>
      ⟨content, 1, [], List.replicate 16 0⟩
  let (groups, left) := ramdiskGroups words
  if left = [] then
    groups.foldlM (addGroup disk) platform
  else
    none

/-! ## The image -/

/-- The arguments the image is written with. -/
def BootNamespace.arguments
    (arguments : BootNamespace)
    (headerVersion : Nat)
    (fragments : List RamdiskFragment) :
    VendorBootArguments where
  headerVersion := headerVersion
  pagesize := arguments.pagesize
  base := arguments.base
  kernelOffset := arguments.kernelOffset
  ramdiskOffset := arguments.ramdiskOffset
  tagsOffset := arguments.tagsOffset
  dtbOffset := arguments.dtbOffset
  vendorCmdline := arguments.vendorCmdline.bytes
  board := arguments.board.bytes
  dtb := arguments.dtb.getD []
  vendorRamdisk := arguments.vendorRamdisk.getD []
  vendorBootconfig := arguments.vendorBootconfig.getD []
  fragments := fragments

/-- `parse_cmdline`, and the checks in `main`, with `--vendor_boot` -/
def parseCmdline
    (disk : Text → Option Bytes)
    (words : List Text) :
    Option VendorBootArguments := do
  let cmdlineSize ← cmdlineSize words
  let (pairs, extras) ← parseKnownArgs bootParser words
  let arguments ←
    pairs.foldlM (storeArgument disk cmdlineSize) BootNamespace.default
  let given := pairs.map Prod.fst
  if arguments.vendorBoot = none then
    none
  else if .recoveryDtbo ∈ given ∧ .recoveryAcpio ∈ given then
    -- the two exclude each other
    none
  else if arguments.headerVersion = 4 then
    let fragments ←
      parseVendorRamdiskArgs disk arguments.vendorRamdisk extras
    some (arguments.arguments 4 fragments)
  else if arguments.headerVersion = 3 ∧ extras = [] ∧
      arguments.vendorRamdisk ≠ none then
    some (arguments.arguments 3 [])
  else
    none

/-- `mkbootimg.py` with `--vendor_boot`: the image that is written -/
def mkbootimg
    (disk : Text → Option Bytes)
    (words : List Text) :
    Option Bytes :=
  (parseCmdline disk words).bind VendorBootArguments.writeVendorBoot

/--
The files that are opened for writing while the words are parsed.  An option
whose value is refused ends the parser earlier; then fewer are opened.
-/
def openedForWriting (words : List Text) : List Text :=
  ((takenActions bootParser words).filter fun action =>
    action.1 = .output || action.1 = .vendorBoot).map Prod.snd

/-! ## Printed numbers -/

section Numbers

theorem isSpace_of_isAlphanum
    {character : Char}
    (alphanumeric : character.isAlphanum = true) :
    isSpace character = false := by
  have high := le_toNat_of_isAlphanum alphanumeric
  simp only [isSpace, Bool.or_eq_false_iff, decide_eq_false_iff_not]
  refine ⟨?_, by omega⟩
  rintro rfl
  exact absurd high (by decide)

/-- A text without white space and sign is its digits. -/
theorem parseInt_of_isAlphanum
    {text : Text}
    (alphanumeric : ∀ character ∈ text, character.isAlphanum = true)
    {value : Nat}
    (digits : parseDigits text = some value) :
    parseInt text = some (value : Int) := by
  have front : text.dropWhile isSpace = text := by
    cases text with
    | nil =>
        rfl
    | cons head rest =>
        rw [List.dropWhile_cons_of_neg]
        simp [isSpace_of_isAlphanum (alphanumeric head List.mem_cons_self)]
  have back : text.rdropWhile isSpace = text := by
    rw [List.rdropWhile_eq_self_iff]
    intro nonempty
    simp [isSpace_of_isAlphanum
      (alphanumeric _ (List.getLast_mem nonempty))]
  have unsigned : sign text = (false, text) := by
    unfold sign
    split
    · exact absurd (alphanumeric '-' List.mem_cons_self) (by decide)
    · exact absurd (alphanumeric '+' List.mem_cons_self) (by decide)
    · rfl
  rw [parseInt, front, back, unsigned]
  simp only [digits]
  rfl

/-- A printed number has no leading zero. -/
theorem parseDigits_printUnsigned (value : Nat) :
    parseDigits (printUnsigned value) = some value := by
  by_cases zero : value = 0
  · subst zero
    decide +kernel
  · have decimal := pyInt_printUnsigned value
    rcases shape : printUnsigned value with _ | ⟨head, rest⟩
    · exact (Nat.toDigits_ne_nil shape).elim
    · have notZero : head ≠ '0' := by
        rintro rfl
        exact zero (eq_zero_of_head_toDigits (by
          rw [show Nat.toDigits 10 value = '0' :: rest from shape]
          rfl))
      rw [shape] at decimal
      unfold parseDigits
      split
      · rename_i same
        exact (notZero (List.cons.inj same).1).elim
      · exact decimal

theorem parseInt_printUnsigned (value : Nat) :
    parseInt (printUnsigned value) = some (value : Int) :=
  parseInt_of_isAlphanum
    (fun _ member => (mem_toDigits (by decide) (by decide) member).1)
    (parseDigits_printUnsigned value)

/-- Zeros in front of a number do not change it. -/
theorem scanDigits_replicate_zero
    (base count : Nat)
    (positive : 0 < base)
    (text : Text) :
    scanDigits base 0 (List.replicate count '0' ++ text) =
      scanDigits base 0 text := by
  have zero : digitBelow base '0' = some 0 := by
    rw [digitBelow]
    simp [digitValue_of_isDigit, positive]
  induction count with
  | zero =>
      rfl
  | succ count inductionHypothesis =>
      rw [List.replicate_succ, List.cons_append, scanDigits, zero]
      exact inductionHypothesis

theorem mem_formatHex
    {width value : Nat}
    {character : Char}
    (member : character ∈ formatHex width value) :
    character.isAlphanum = true := by
  simp only [formatHex, List.mem_append, List.mem_replicate] at member
  rcases member with (marker | ⟨-, rfl⟩) | digit
  · have radix : "0x".toList.all Char.isAlphanum = true := by
      decide
    exact List.all_eq_true.mp radix character marker
  · decide
  · exact (mem_toDigits (by decide) (by decide) digit).1

theorem parseInt_formatHex (width value : Nat) :
    parseInt (formatHex width value) = some (value : Int) := by
  refine parseInt_of_isAlphanum (fun _ => mem_formatHex) ?_
  have shape :
      formatHex width value =
        '0' :: 'x' ::
          (List.replicate (width - 2 - (printHex value).length) '0' ++
            printHex value) := by
    rw [formatHex]
    rfl
  have scanned :
      scanDigits 16 0
          (List.replicate (width - 2 - (printHex value).length) '0' ++
            printHex value) =
        (value, []) := by
    rw [scanDigits_replicate_zero 16 _ (by decide)]
    exact scanDigits_toDigits (by decide) (by decide) value
  rw [shape, parseDigits, if_pos (.inl rfl), pyInt, scanned]
  refine if_neg ?_
  intro empty
  exact Nat.toDigits_ne_nil (List.append_eq_nil_iff.mp empty).2

theorem toLower_of_isDigit
    {character : Char}
    (digit : character.isDigit = true) :
    character.toLower = character := by
  simp only [Char.isDigit, Bool.and_eq_true, decide_eq_true_eq] at digit
  refine dif_neg ?_
  intro upper
  exact absurd (UInt32.le_trans upper.1 digit.2) (by decide)

/-- A printed number is no name of a ramdisk type. -/
theorem parseVendorRamdiskType_printUnsigned (value : Nat) :
    parseVendorRamdiskType (printUnsigned value) = some (value : Int) := by
  have other {name : Text} {letter : Char}
      (starts : name.head? = some letter)
      (notDigit : letter.isDigit = false) :
      ¬(printUnsigned value).map Char.toLower = name := by
    rintro rfl
    rw [List.head?_map, Option.map_eq_some_iff] at starts
    obtain ⟨head, isHead, rfl⟩ := starts
    have digit : head.isDigit = true :=
      Nat.isDigit_of_mem_toDigits (by decide) (by decide)
        (List.mem_of_head? isHead)
    rw [toLower_of_isDigit digit, digit] at notDigit
    cases notDigit
  rw [parseVendorRamdiskType, if_neg (other rfl (by decide)),
    if_neg (other rfl (by decide)), if_neg (other rfl (by decide)),
    if_neg (other rfl (by decide)), parseInt_printUnsigned]

end Numbers

end OverclockBuilder
