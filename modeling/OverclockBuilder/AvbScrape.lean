import OverclockBuilder.AvbInfoLines

namespace OverclockBuilder

open RadixText WordText BytePacking CNumber BashText LineText

/-!
# Scraping the AVB parameters

Stage 1 takes four values out of the text of `avbtool.py info_image`.  Each is
a field of the first line that matches a pattern, wherever in the text that
line stands.
-/

/-- `$(...)`: the shell drops NUL characters from what a command prints. -/
def capture (text : Text) : Text :=
  text.filter (· ≠ '\x00')

/-- The field of the first line that matches, if there is one. -/
def firstField
    (pattern : Text → Bool)
    (field : Nat)
    (lines : List Text) :
    Option Text :=
  (lines.find? pattern).map (awkField field)

/-- `/Partition Name:/` -/
def isPartitionLine (line : Text) : Bool :=
  contains "Partition Name:".toList line

/-- `/Original image size:/` -/
def isOriginalSizeLine (line : Text) : Bool :=
  contains "Original image size:".toList line

/-- `/^Image size:/` -/
def isImageSizeLine (line : Text) : Bool :=
  "Image size:".toList.isPrefixOf line

/-- `/^[[:space:]]*Salt:/` -/
def isSaltLine (line : Text) : Bool :=
  "Salt:".toList.isPrefixOf (line.dropWhile isSpace)

/-- The variables stage 1 reads. -/
structure AvbParameters where
  partitionName : Text
  originalSize : Text
  imageSize : Text
  salt : Text
  deriving Repr, DecidableEq

/-- `vendor_boot` -/
def vendorBoot : Text :=
  "vendor_boot".toList

/-- Stage 1 behind `info_image`; `none` is `exit 1`. -/
def readAvb (avbInfo : Text) : Option AvbParameters :=
  let avbLines := lines avbInfo
  let partitionName := capture (awkFirst isPartitionLine 3 avbLines)
  let originalSize := capture (awkFirst isOriginalSizeLine 4 avbLines)
  let imageSize := capture (awkFirst isImageSizeLine 3 avbLines)
  let salt := capture (awkFirst isSaltLine 2 avbLines)
  let partitionName :=
    -- the second attempt is the first one again
    if partitionName = [] then
      capture (awkFirst isPartitionLine 3 avbLines)
    else
      partitionName
  if partitionName ≠ vendorBoot then
    none
  else if imageSize = [] ∨ originalSize = [] ∨ salt = [] then
    none
  else
    some ⟨partitionName, originalSize, imageSize, salt⟩

/-! ## First lines -/

theorem awkFirst_eq_firstField
    (pattern : Text → Bool)
    (field : Nat)
    (lines : List Text) :
    awkFirst pattern field lines =
      (firstField pattern field lines).getD [] := by
  rw [awkFirst, firstField]
  cases lines.find? pattern with
  | none =>
      rfl
  | some line =>
      rfl

theorem firstField_append
    (pattern : Text → Bool)
    (field : Nat)
    (first second : List Text) :
    firstField pattern field (first ++ second) =
      (firstField pattern field first).or
        (firstField pattern field second) := by
  rw [firstField, List.find?_append, firstField, firstField]
  cases first.find? pattern with
  | none =>
      rfl
  | some line =>
      rfl

/-- Without a match there is no field. -/
theorem firstField_eq_none
    {pattern : Text → Bool}
    {lines : List Text}
    (unmatched : ∀ line ∈ lines, pattern line = false)
    (field : Nat) :
    firstField pattern field lines = none := by
  have none : lines.find? pattern = none := by
    rw [List.find?_eq_none]
    intro line member
    simp [unmatched line member]
  rw [firstField, none, Option.map_none]

theorem firstField_cons
    {pattern : Text → Bool}
    {line : Text}
    (matched : pattern line = true)
    (field : Nat)
    (rest : List Text) :
    firstField pattern field (line :: rest) =
      some (awkField field line) := by
  rw [firstField, List.find?_cons_of_pos matched, Option.map_some]

theorem firstField_cons_of_unmatched
    {pattern : Text → Bool}
    {line : Text}
    (unmatched : pattern line = false)
    (field : Nat)
    (rest : List Text) :
    firstField pattern field (line :: rest) =
      firstField pattern field rest := by
  rw [firstField, List.find?_cons_of_neg (by rw [unmatched]; decide),
    firstField]

/-- A quiet line matches neither pattern of a descriptor. -/
theorem Quiet.unmatched
    {line : Text}
    (quiet : Quiet line) :
    isPartitionLine line = false ∧ isSaltLine line = false := by
  have absent := List.all_eq_true.mp quiet.2
  refine ⟨?_, ?_⟩
  · simpa [isPartitionLine] using
      absent "Partition Name:".toList List.mem_cons_self
  · have noSalt : contains "Salt:".toList line = false := by
      simpa using absent "Salt:".toList (by decide)
    rw [isSaltLine, Bool.eq_false_iff, ne_eq, List.isPrefixOf_iff_prefix]
    intro starts
    have inLine : "Salt:".toList <:+: line :=
      starts.isInfix.trans (List.dropWhile_suffix _).isInfix
    exact of_decide_eq_false noSalt inLine

/-- A field of a descriptor is scraped unless a line in front of it matches. -/
theorem awkFirst_infoImage
    (sha1 : Bytes → Bytes)
    {info : AvbImageInfo}
    {text : Text}
    (printed : infoImage sha1 info = some text)
    {front behind : List AvbDescriptor}
    {desc : AvbDescriptor}
    (placed : info.descriptors = front ++ desc :: behind)
    {pattern : Text → Bool}
    (unmatched : ∀ {line : Text}, Quiet line → pattern line = false)
    {field : Nat}
    {value : Text}
    (found : firstField pattern field (desc.printedLines sha1) = some value) :
    awkFirst pattern field (lines text) =
      (firstField pattern field
        (frontLines sha1 info.header.releaseString front)).getD value := by
  obtain ⟨header, quiet, cut⟩ := lines_infoImage_at sha1 printed placed
  rw [awkFirst_eq_firstField, cut, firstField_append, firstField_append,
    firstField_append, firstField_append,
    firstField_eq_none fun line member =>
      unmatched (quiet_footerBlock info line member),
    firstField_eq_none fun line member => unmatched (quiet line member),
    found, Option.none_or, Option.none_or, Option.some_or]
  cases firstField pattern field
      (frontLines sha1 info.header.releaseString front) with
  | none =>
      rfl
  | some shown =>
      rfl

/-! ## The lines of a descriptor -/

/-- A value without blanks is the word behind its label. -/
theorem awkField_label
    {label value : Text}
    (ends : label.getLast? = some ' ')
    (unblanked : ∀ character ∈ value, isIfsBlank character = false)
    {field : Nat}
    (counted : (words isIfsBlank label).length + 1 = field) :
    awkField field (label ++ value) = value := by
  have cut : words isIfsBlank value = flush value :=
    wordsFrom_of_forall unblanked []
  rw [awkField, words_append_of_getLast? ends (by decide), cut, ← counted,
    Nat.add_sub_cancel, List.getD_eq_getElem?_getD,
    List.getElem?_append_right (Nat.le_refl _), Nat.sub_self]
  cases value with
  | nil =>
      rfl
  | cons head rest =>
      rfl

/-- The name a descriptor prints behind `Partition Name:`. -/
def AvbDescriptor.partitionName? : AvbDescriptor → Option Text
  | .hashtree desc => some desc.partitionName
  | .hash desc => some desc.partitionName
  | .chainPartition desc => some desc.partitionName
  | _ => none

/-- The salt a descriptor prints. -/
def AvbDescriptor.salt? : AvbDescriptor → Option Bytes
  | .hashtree desc => some desc.salt
  | .hash desc => some desc.salt
  | _ => none

/-- The label of a name is in the line, whatever the name is. -/
theorem isPartitionLine_append
    {label : Text}
    (labelled : isPartitionLine label = true)
    (name : Text) :
    isPartitionLine (label ++ name) = true := by
  rw [isPartitionLine, contains, decide_eq_true_eq] at labelled ⊢
  exact labelled.trans (List.prefix_append label name).isInfix

/-- A value without blanks stays on the line of its label. -/
theorem pieceLines_label
    {label value : Text}
    (single : '\n' ∉ label)
    (unblanked : ∀ character ∈ value, isIfsBlank character = false) :
    pieceLines (label ++ value) = [label ++ value] := by
  refine pieceLines_of_not_mem ?_
  rw [List.mem_append]
  rintro (inLabel | inValue)
  · exact single inLabel
  · exact absurd (unblanked '\n' inValue) (by decide)

section Descriptors

variable (sha1 : Bytes → Bytes)

/--
A descriptor that prints no label but its own.

Its name is one word; what else it prints as it is stays on one line and does
not show the label of a name.
-/
def AvbDescriptor.Tame (desc : AvbDescriptor) : Prop :=
  match desc.partitionName? with
  | some name => Solid isIfsBlank name
  | none =>
      ∀ piece ∈ desc.printDesc sha1,
        '\n' ∉ piece ∧ isPartitionLine piece = false

variable {sha1}

theorem hexlify_unblanked
    (data : Bytes) :
    ∀ digit ∈ hexlify data, isIfsBlank digit = false := by
  have digits : hexDigits.all (fun digit => !isIfsBlank digit) = true := by
    decide
  intro digit member
  simpa using List.all_eq_true.mp digits digit (mem_hexlify member)

/-- Quiet pieces are lines that match no pattern. -/
theorem firstField_quiet_append
    {pieces : List Text}
    (quiet : ∀ piece ∈ pieces, Quiet piece)
    (rest : List Text) :
    firstField isPartitionLine 3 (pieces.flatMap pieceLines ++ rest) =
        firstField isPartitionLine 3 rest ∧
      firstField isSaltLine 2 (pieces.flatMap pieceLines ++ rest) =
        firstField isSaltLine 2 rest := by
  rw [flatMap_pieceLines fun piece member => (quiet piece member).1]
  refine ⟨?_, ?_⟩
  · rw [firstField_append, firstField_eq_none (fun line member =>
      (quiet line member).unmatched.1), Option.none_or]
  · rw [firstField_append, firstField_eq_none (fun line member =>
      (quiet line member).unmatched.2), Option.none_or]

/-- The first name and the first salt of a hash or hashtree descriptor. -/
theorem firstField_nameAndSalt
    (front : List Text)
    (quiet : ∀ piece ∈ front, Quiet piece)
    {name : Text}
    (solid : Solid isIfsBlank name)
    (salt : Bytes)
    (behind : List Text) :
    let pieces :=
      front ++ ("      Partition Name:        ".toList ++ name) ::
        ("      Salt:                  ".toList ++ hexlify salt) :: behind
    firstField isPartitionLine 3 (pieces.flatMap pieceLines) = some name ∧
      firstField isSaltLine 2 (pieces.flatMap pieceLines) =
        some (hexlify salt) := by
  intro pieces
  have cut :
      pieces.flatMap pieceLines =
        front.flatMap pieceLines ++
          ("      Partition Name:        ".toList ++ name) ::
            ("      Salt:                  ".toList ++ hexlify salt) ::
              behind.flatMap pieceLines := by
    rw [List.flatMap_append, List.flatMap_cons, List.flatMap_cons,
      pieceLines_label (by decide +kernel) solid.2,
      pieceLines_label (by decide +kernel) (hexlify_unblanked salt)]
    rfl
  have quietFront := firstField_quiet_append quiet
  rw [cut, (quietFront _).1, (quietFront _).2]
  refine ⟨?_, ?_⟩
  · rw [firstField_cons (isPartitionLine_append (by decide +kernel) name),
      Option.some.injEq]
    exact awkField_label (by decide +kernel) solid.2 (by decide +kernel)
  · have notSalt :
        isSaltLine ("      Partition Name:        ".toList ++ name) =
          false := rfl
    have isSalt :
        isSaltLine
          ("      Salt:                  ".toList ++ hexlify salt) =
          true := rfl
    rw [firstField_cons_of_unmatched notSalt, firstField_cons isSalt,
      Option.some.injEq]
    exact awkField_label (by decide +kernel) (hexlify_unblanked salt)
      (by decide +kernel)

/-- What the patterns find in the lines of a hash descriptor -/
theorem firstField_hash
    {desc : AvbHashDescriptor}
    (solid : Solid isIfsBlank desc.partitionName) :
    firstField isPartitionLine 3
          ((AvbDescriptor.hash desc).printedLines sha1) =
        some desc.partitionName ∧
      firstField isSaltLine 2
          ((AvbDescriptor.hash desc).printedLines sha1) =
        some (hexlify desc.salt) := by
  refine firstField_nameAndSalt (desc.printDesc.take 3) ?_ solid desc.salt _
  intro piece member
  rcases List.mem_cons.mp member with rfl | member
  · decide +kernel
  rcases List.mem_pair.mp member with rfl | rfl
  · exact quiet_bytesPiece (by decide +kernel) _
  · exact quiet_name (by decide +kernel) _

/-- What the patterns find in the lines of a hashtree descriptor -/
theorem firstField_hashtree
    {desc : AvbHashtreeDescriptor}
    (solid : Solid isIfsBlank desc.partitionName) :
    firstField isPartitionLine 3
          ((AvbDescriptor.hashtree desc).printedLines sha1) =
        some desc.partitionName ∧
      firstField isSaltLine 2
          ((AvbDescriptor.hashtree desc).printedLines sha1) =
        some (hexlify desc.salt) := by
  refine firstField_nameAndSalt (desc.printDesc.take 11) ?_ solid desc.salt _
  have numbered
      {label : String}
      (quiet : Quiet label.toList)
      (number : Nat) :
      Quiet (numberPiece label number) ∧ Quiet (bytesPiece label number) :=
    ⟨quiet_numberPiece quiet number, quiet_bytesPiece quiet number⟩
  intro piece member
  simp only [AvbHashtreeDescriptor.printDesc, List.take_succ_cons,
    List.take_zero, List.mem_cons, List.not_mem_nil, or_false] at member
  rcases member with
    rfl | rfl | rfl | rfl | rfl | rfl | rfl | rfl | rfl | rfl | rfl
  · decide +kernel
  · exact (numbered (by decide +kernel) _).1
  · exact (numbered (by decide +kernel) _).2
  · exact (numbered (by decide +kernel) _).1
  · exact (numbered (by decide +kernel) _).2
  · exact (numbered (by decide +kernel) _).2
  · exact (numbered (by decide +kernel) _).2
  · exact (numbered (by decide +kernel) _).1
  · exact (numbered (by decide +kernel) _).1
  · exact (numbered (by decide +kernel) _).2
  · exact quiet_name (by decide +kernel) _

/-- A chain partition descriptor shows a name but no salt. -/
theorem firstField_chainPartition
    {desc : AvbChainPartitionDescriptor}
    (solid : Solid isIfsBlank desc.partitionName) :
    firstField isPartitionLine 3
          ((AvbDescriptor.chainPartition desc).printedLines sha1) =
        some desc.partitionName ∧
      firstField isSaltLine 2
          ((AvbDescriptor.chainPartition desc).printedLines sha1) =
        none := by
  have title : ∀ piece ∈ (desc.printDesc sha1).take 1, Quiet piece := by
    intro piece member
    rw [List.mem_singleton.mp member]
    decide +kernel
  have behind : ∀ piece ∈ (desc.printDesc sha1).drop 2, Quiet piece := by
    intro piece member
    simp only [AvbChainPartitionDescriptor.printDesc, List.drop_succ_cons,
      List.drop_zero, List.mem_cons, List.not_mem_nil, or_false] at member
    rcases member with rfl | rfl | rfl
    · exact quiet_numberPiece (by decide +kernel) _
    · exact quiet_hexlify (by decide +kernel) _
    · exact quiet_numberPiece (by decide +kernel) _
  have cut :
      (AvbDescriptor.chainPartition desc).printedLines sha1 =
        ((desc.printDesc sha1).take 1).flatMap pieceLines ++
          ("      Partition Name:          ".toList ++
              desc.partitionName) ::
            (((desc.printDesc sha1).drop 2).flatMap pieceLines ++ []) := by
    have nameLine :
        pieceLines
            ("      Partition Name:          ".toList ++
              desc.partitionName) =
          ["      Partition Name:          ".toList ++
            desc.partitionName] :=
      pieceLines_label (by decide +kernel) solid.2
    rw [List.append_nil, ← List.singleton_append, ← nameLine]
    simp [AvbDescriptor.printedLines, AvbDescriptor.printDesc,
      AvbChainPartitionDescriptor.printDesc]
  have quietFront := firstField_quiet_append title
  rw [cut, (quietFront _).1, (quietFront _).2]
  refine ⟨?_, ?_⟩
  · rw [firstField_cons (isPartitionLine_append (by decide +kernel) _),
      Option.some.injEq]
    exact awkField_label (by decide +kernel) solid.2 (by decide +kernel)
  · have notSalt :
        isSaltLine
          ("      Partition Name:          ".toList ++
            desc.partitionName) =
          false := rfl
    rw [firstField_cons_of_unmatched notSalt,
      (firstField_quiet_append behind []).2]
    rfl

/-- What the patterns find in the lines of a tame descriptor -/
theorem AvbDescriptor.Tame.fields
    {desc : AvbDescriptor}
    (tame : desc.Tame sha1) :
    firstField isPartitionLine 3 (desc.printedLines sha1) =
        desc.partitionName? ∧
      firstField isSaltLine 2 (desc.printedLines sha1) =
        desc.salt?.map hexlify := by
  -- pieces that are not salt lines, and show no name either
  have nothing
      (noSalt : ∀ piece ∈ desc.printDesc sha1, isSaltLine piece = false)
      (unnamed : ∀ piece ∈ desc.printDesc sha1,
        '\n' ∉ piece ∧ isPartitionLine piece = false) :
      firstField isPartitionLine 3 (desc.printedLines sha1) = none ∧
        firstField isSaltLine 2 (desc.printedLines sha1) = none := by
    rw [AvbDescriptor.printedLines,
      flatMap_pieceLines fun piece member => (unnamed piece member).1]
    exact ⟨firstField_eq_none (fun piece member =>
      (unnamed piece member).2) 3, firstField_eq_none noSalt 2⟩
  cases desc with
  | property desc =>
      refine nothing ?_ tame
      intro piece member
      rw [AvbDescriptor.printDesc, AvbPropertyDescriptor.printDesc]
        at member
      split at member
      all_goals
        rw [List.mem_singleton.mp member]
        rfl
  | hashtree desc =>
      exact firstField_hashtree tame
  | hash desc =>
      exact firstField_hash tame
  | kernelCmdline desc =>
      refine nothing ?_ tame
      intro piece member
      simp only [AvbDescriptor.printDesc,
        AvbKernelCmdlineDescriptor.printDesc, List.mem_cons,
        List.not_mem_nil, or_false] at member
      rcases member with rfl | rfl | rfl <;> rfl
  | chainPartition desc =>
      exact firstField_chainPartition tame
  | unknown tag data =>
      refine nothing ?_ tame
      intro piece member
      simp only [AvbDescriptor.printDesc, printUnknown, List.mem_cons,
        List.not_mem_nil, or_false] at member
      rcases member with rfl | rfl | rfl
      · rfl
      · rfl
      · split <;> rfl

end Descriptors

/-! ## What the script reads -/

/-- A hash descriptor for `vendor_boot` that has a salt. -/
def AvbDescriptor.isVendorBootHash : AvbDescriptor → Bool
  | .hash desc => desc.partitionName = vendorBoot && desc.salt ≠ []
  | _ => false

/-- The descriptors in front of the first one of that kind. -/
def frontDescriptors (descriptors : List AvbDescriptor) :
    List AvbDescriptor :=
  descriptors.takeWhile fun desc => !desc.isVendorBootHash

section Script

variable (sha1 : Bytes → Bytes)

/-- The lines between the header and the hash descriptor of `vendor_boot`. -/
def shadowLines (info : AvbImageInfo) : List Text :=
  frontLines sha1 info.header.releaseString
    (frontDescriptors info.descriptors)

/--
Nothing in front of the hash descriptor shadows its name and its salt.

The first name shown there, if there is one, is `vendor_boot` too, and the
first salt is the same salt.
-/
structure Unshadowed (info : AvbImageInfo) (salt : Bytes) : Prop where
  name :
    ∀ name ∈ firstField isPartitionLine 3 (shadowLines sha1 info),
      capture name = vendorBoot
  salt :
    ∀ shown ∈ firstField isSaltLine 2 (shadowLines sha1 info),
      capture shown = hexlify salt

variable {sha1}

theorem capture_of_hexDigits
    {text : Text}
    (digits : ∀ digit ∈ text, digit ∈ hexDigits) :
    capture text = text := by
  have visible :
      hexDigits.all (fun digit => digit ≠ '\x00') = true := by
    decide
  rw [capture, List.filter_eq_self]
  intro digit member
  exact List.all_eq_true.mp visible digit (digits digit member)

/-- The number of a line that ends in `bytes` -/
theorem awkField_bytesPiece
    {label : String}
    (ends : label.toList.getLast? = some ' ')
    {field : Nat}
    (counted : (words isIfsBlank label.toList).length + 1 = field)
    (number : Nat) :
    awkField field (bytesPiece label number) = printUnsigned number := by
  have line :
      bytesPiece label number =
        label.toList ++ printUnsigned number ++ ' ' :: "bytes".toList := rfl
  have bytesWord : Solid isIfsBlank "bytes".toList := by
    decide +kernel
  have cut :
      words isIfsBlank (bytesPiece label number) =
        words isIfsBlank label.toList ++
          [printUnsigned number, "bytes".toList] := by
    rw [line, words_append_separator (by decide),
      words_append_of_getLast? ends (by decide),
      words_of_solid (printUnsigned_printed number).1,
      words_of_solid bytesWord]
    simp
  rw [awkField, cut, ← counted, Nat.add_sub_cancel]
  simp

/-- The sizes come from the block of the footer. -/
theorem firstField_sizes
    (version : Nat × Nat)
    (footer : AvbFooter)
    (imageSize : Nat)
    (rest : List Text) :
    firstField isOriginalSizeLine 4
          (footerPieces version footer imageSize ++ rest) =
        some (printUnsigned footer.originalImageSize) ∧
      firstField isImageSizeLine 3
          (footerPieces version footer imageSize ++ rest) =
        some (printUnsigned imageSize) := by
  have ends : "Original image size:".toList.getLast? = some ':' := by
    decide +kernel
  have bytesValue : isValue " bytes".toList = true := by
    decide +kernel
  have notVersion :
      isOriginalSizeLine
        ("Footer version:           ".toList ++ printUnsigned version.1 ++
          ".".toList ++ printUnsigned version.2) = false := by
    rw [isOriginalSizeLine,
      contains_append_value ends (isValue_printUnsigned _),
      contains_append_value ends (by decide +kernel),
      contains_append_value ends (isValue_printUnsigned _)]
    decide +kernel
  have sizeLine
      (label : String)
      (number : Nat) :
      isOriginalSizeLine (bytesPiece label number) =
        isOriginalSizeLine label.toList := by
    rw [isOriginalSizeLine, bytesPiece,
      contains_append_value ends bytesValue,
      contains_append_value ends (isValue_printUnsigned _),
      isOriginalSizeLine]
  have notImageSize :
      isOriginalSizeLine
        (bytesPiece "Image size:               " imageSize) = false := by
    rw [sizeLine]
    decide +kernel
  have original :
      isOriginalSizeLine
        (bytesPiece "Original image size:      "
          footer.originalImageSize) = true := by
    rw [sizeLine]
    decide +kernel
  have notFooterVersion :
      isImageSizeLine
        ("Footer version:           ".toList ++ printUnsigned version.1 ++
          ".".toList ++ printUnsigned version.2) = false := rfl
  have image :
      isImageSizeLine
        (bytesPiece "Image size:               " imageSize) = true := rfl
  refine ⟨?_, ?_⟩
  · rw [footerPieces, List.cons_append, List.cons_append, List.cons_append,
      firstField_cons_of_unmatched notVersion,
      firstField_cons_of_unmatched notImageSize,
      firstField_cons original,
      awkField_bytesPiece (by decide +kernel) (by decide +kernel)]
  · rw [footerPieces, List.cons_append, List.cons_append,
      firstField_cons_of_unmatched notFooterVersion,
      firstField_cons image,
      awkField_bytesPiece (by decide +kernel) (by decide +kernel)]

/-- `vendor_boot` is one word. -/
theorem vendorBoot_solid : Solid isIfsBlank vendorBoot := by
  decide +kernel

/-- The only hash descriptor of its kind stands behind the others. -/
theorem descriptors_of_sole
    {descriptors : List AvbDescriptor}
    {hash : AvbHashDescriptor}
    (sole :
      descriptors.filter AvbDescriptor.isVendorBootHash = [.hash hash]) :
    hash.partitionName = vendorBoot ∧ hash.salt ≠ [] ∧
      ∃ behind,
        descriptors = frontDescriptors descriptors ++ .hash hash :: behind := by
  obtain ⟨front, behind, placed, notIn, found, -⟩ :=
    List.filter_eq_cons_iff.mp sole
  have taken : frontDescriptors descriptors = front := by
    rw [frontDescriptors, placed, List.takeWhile_append_of_pos ?_,
      List.takeWhile_cons_of_neg (by simpa using found), List.append_nil]
    intro desc member
    simpa using notIn desc member
  have kind :
      hash.partitionName = vendorBoot ∧ hash.salt ≠ [] := by
    simpa [AvbDescriptor.isVendorBootHash] using found
  exact ⟨kind.1, kind.2, behind, taken.symm ▸ placed⟩

/-- What stage 1 reads, by the lines in front of the hash descriptor. -/
theorem readAvb_infoImage
    {info : AvbImageInfo}
    {text : Text}
    (printed : infoImage sha1 info = some text)
    {version : Nat × Nat}
    {footer : AvbFooter}
    (footed : info.footer = some (version, footer))
    {hash : AvbHashDescriptor}
    (sole :
      info.descriptors.filter AvbDescriptor.isVendorBootHash =
        [.hash hash]) :
    let name :=
      capture ((firstField isPartitionLine 3 (shadowLines sha1 info)).getD
        vendorBoot)
    let salt :=
      capture ((firstField isSaltLine 2 (shadowLines sha1 info)).getD
        (hexlify hash.salt))
    readAvb text =
      if name = vendorBoot ∧ salt ≠ [] then
        some {
          partitionName := name
          originalSize := printUnsigned footer.originalImageSize
          imageSize := printUnsigned info.imageSize
          salt := salt }
      else
        none := by
  intro name salt
  obtain ⟨named, salted, behind, placed⟩ := descriptors_of_sole sole
  have found :
      firstField isPartitionLine 3
            ((AvbDescriptor.hash hash).printedLines sha1) =
          some hash.partitionName ∧
        firstField isSaltLine 2
            ((AvbDescriptor.hash hash).printedLines sha1) =
          some (hexlify hash.salt) :=
    firstField_hash (named ▸ vendorBoot_solid)
  have nameField :
      capture (awkFirst isPartitionLine 3 (lines text)) = name := by
    rw [awkFirst_infoImage sha1 printed placed
      (fun quiet => quiet.unmatched.1) found.1, named]
    rfl
  have saltField : capture (awkFirst isSaltLine 2 (lines text)) = salt := by
    rw [awkFirst_infoImage sha1 printed placed
      (fun quiet => quiet.unmatched.2) found.2]
    rfl
  obtain ⟨header, -, cut⟩ := lines_infoImage_at sha1 printed placed
  have block :
      info.footerBlock = footerPieces version footer info.imageSize := by
    rw [AvbImageInfo.footerBlock, footed]
  have sizes := firstField_sizes version footer info.imageSize
  have originalField :
      capture (awkFirst isOriginalSizeLine 4 (lines text)) =
        printUnsigned footer.originalImageSize := by
    rw [awkFirst_eq_firstField, cut, block, List.append_assoc,
      List.append_assoc, (sizes _).1, Option.getD_some]
    exact capture_of_hexDigits fun _ member => mem_printUnsigned member
  have imageField :
      capture (awkFirst isImageSizeLine 3 (lines text)) =
        printUnsigned info.imageSize := by
    rw [awkFirst_eq_firstField, cut, block, List.append_assoc,
      List.append_assoc, (sizes _).2, Option.getD_some]
    exact capture_of_hexDigits fun _ member => mem_printUnsigned member
  have shown (value : Nat) : printUnsigned value ≠ [] :=
    (printUnsigned_printed value).1.1
  rw [readAvb]
  simp only [nameField, saltField, originalField, imageField, ite_self,
    shown, false_or]
  by_cases isVendorBoot : name = vendorBoot
  · simp only [isVendorBoot, ne_eq, not_true_eq_false, if_false, true_and]
    by_cases unsalted : salt = []
    · simp only [unsalted, if_true, not_true_eq_false, if_false]
    · simp only [unsalted, if_false, not_false_eq_true, if_true]
  · simp only [isVendorBoot, ne_eq, not_false_eq_true, if_true, false_and,
      if_false]

/-- What belongs to the image and its hash descriptor. -/
def AvbImageInfo.parameters
    (info : AvbImageInfo)
    (footer : AvbFooter)
    (hash : AvbHashDescriptor) :
    AvbParameters where
  partitionName := vendorBoot
  originalSize := printUnsigned footer.originalImageSize
  imageSize := printUnsigned info.imageSize
  salt := hexlify hash.salt

theorem capture_hexlify (data : Bytes) :
    capture (hexlify data) = hexlify data :=
  capture_of_hexDigits fun _ member => mem_hexlify member

/-- A default that is captured as it is -/
theorem capture_getD_eq_iff
    {default : Text}
    (visible : capture default = default)
    (field : Option Text) :
    capture (field.getD default) = default ↔
      ∀ shown ∈ field, capture shown = default := by
  cases field with
  | none =>
      simp [visible]
  | some shown =>
      simp

/-- Stage 1 reads the right values where the name and the salt are right. -/
theorem readAvb_eq_parameters_iff
    {info : AvbImageInfo}
    {text : Text}
    (printed : infoImage sha1 info = some text)
    {version : Nat × Nat}
    {footer : AvbFooter}
    (footed : info.footer = some (version, footer))
    {hash : AvbHashDescriptor}
    (sole :
      info.descriptors.filter AvbDescriptor.isVendorBootHash =
        [.hash hash]) :
    readAvb text = some (info.parameters footer hash) ↔
      capture ((firstField isPartitionLine 3 (shadowLines sha1 info)).getD
          vendorBoot) = vendorBoot ∧
        capture ((firstField isSaltLine 2 (shadowLines sha1 info)).getD
          (hexlify hash.salt)) = hexlify hash.salt := by
  have shown : hexlify hash.salt ≠ [] :=
    hexlify_ne_nil (descriptors_of_sole sole).2.1
  rw [readAvb_infoImage printed footed sole]
  refine ⟨?_, ?_⟩
  · intro read
    split at read
    · rw [Option.some.injEq, AvbImageInfo.parameters,
        AvbParameters.mk.injEq] at read
      exact ⟨read.1, read.2.2.2⟩
    · cases read
  · rintro ⟨name, salt⟩
    rw [name, salt, if_pos ⟨rfl, shown⟩, AvbImageInfo.parameters]

/--
Stage 1 reads the sizes and the salt of the image exactly where nothing in
front of its hash descriptor shadows them.
-/
theorem readAvb_exact_iff
    {info : AvbImageInfo}
    {text : Text}
    (printed : infoImage sha1 info = some text)
    {version : Nat × Nat}
    {footer : AvbFooter}
    (footed : info.footer = some (version, footer))
    {hash : AvbHashDescriptor}
    (sole :
      info.descriptors.filter AvbDescriptor.isVendorBootHash =
        [.hash hash]) :
    readAvb text = some (info.parameters footer hash) ↔
      Unshadowed sha1 info hash.salt := by
  have visible : capture vendorBoot = vendorBoot := by
    decide +kernel
  rw [readAvb_eq_parameters_iff printed footed sole,
    capture_getD_eq_iff visible,
    capture_getD_eq_iff (capture_hexlify hash.salt)]
  exact ⟨fun right => ⟨right.1, right.2⟩,
    fun unshadowed => ⟨unshadowed.name, unshadowed.salt⟩⟩

/-- Tame descriptors show their names and salts in order. -/
theorem firstField_printedLines
    {descriptors : List AvbDescriptor}
    (tame : ∀ desc ∈ descriptors, desc.Tame sha1) :
    firstField isPartitionLine 3
          (descriptors.flatMap (AvbDescriptor.printedLines sha1)) =
        descriptors.findSome? AvbDescriptor.partitionName? ∧
      firstField isSaltLine 2
          (descriptors.flatMap (AvbDescriptor.printedLines sha1)) =
        (descriptors.findSome? AvbDescriptor.salt?).map hexlify := by
  induction descriptors with
  | nil =>
      exact ⟨rfl, rfl⟩
  | cons desc rest inductionHypothesis =>
      have here := (tame desc List.mem_cons_self).fields
      have behind := inductionHypothesis fun other member =>
        tame other (List.mem_cons_of_mem desc member)
      rw [List.flatMap_cons, firstField_append, firstField_append, here.1,
        here.2, behind.1, behind.2, List.findSome?_cons,
        List.findSome?_cons]
      refine ⟨?_, ?_⟩
      · cases desc.partitionName? with
        | none =>
            rfl
        | some name =>
            rfl
      · cases desc.salt? with
        | none =>
            rfl
        | some salt =>
            rfl

/--
Where free texts keep to their lines, only the first name and the first salt
in front of the hash descriptor matter.
-/
theorem unshadowed_iff_of_tame
    {info : AvbImageInfo}
    (quietRelease : Quiet (releasePiece info.header.releaseString))
    (tame : ∀ desc ∈ frontDescriptors info.descriptors, desc.Tame sha1)
    (salt : Bytes) :
    Unshadowed sha1 info salt ↔
      (∀ name ∈ (frontDescriptors info.descriptors).findSome?
          AvbDescriptor.partitionName?, capture name = vendorBoot) ∧
        ∀ shown ∈ (frontDescriptors info.descriptors).findSome?
          AvbDescriptor.salt?, shown = salt := by
  have titles :
      ∀ piece ∈ [releasePiece info.header.releaseString,
        "Descriptors:".toList], Quiet piece := by
    intro piece member
    rcases List.mem_pair.mp member with rfl | rfl
    · exact quietRelease
    · decide +kernel
  have front :
      shadowLines sha1 info =
        [releasePiece info.header.releaseString,
          "Descriptors:".toList].flatMap pieceLines ++
            (frontDescriptors info.descriptors).flatMap
              (AvbDescriptor.printedLines sha1) := by
    rw [flatMap_pieceLines fun piece member => (titles piece member).1,
      shadowLines, frontLines, pieceLines_of_not_mem quietRelease.1]
    rfl
  have quietTitles := firstField_quiet_append titles
  have fields := firstField_printedLines tame
  have sameSalt (shown : Bytes) :
      capture (hexlify shown) = hexlify salt ↔ shown = salt := by
    rw [capture_hexlify]
    refine ⟨fun same => ?_, congrArg hexlify⟩
    have decoded := congrArg unhexlify same
    rw [unhexlify_hexlify, unhexlify_hexlify, Option.some.injEq] at decoded
    exact decoded
  refine ⟨?_, ?_⟩
  · rintro ⟨names, salts⟩
    rw [front, (quietTitles _).1, fields.1] at names
    rw [front, (quietTitles _).2, fields.2] at salts
    refine ⟨names, fun shown member => (sameSalt shown).mp ?_⟩
    exact salts _ (Option.mem_map_of_mem hexlify member)
  · rintro ⟨names, salts⟩
    refine ⟨?_, ?_⟩
    · rw [front, (quietTitles _).1, fields.1]
      exact names
    · rw [front, (quietTitles _).2, fields.2]
      intro shown member
      obtain ⟨found, isFound, rfl⟩ := Option.mem_map.mp member
      exact (sameSalt found).mpr (salts found isFound)

end Script

/-! ## Two images -/

/-- The hash descriptor of an image. -/
def exampleHash : AvbHashDescriptor where
  imageSize := 8192
  hashAlgorithm := ⟨"sha256".toList, by decide +kernel⟩
  partitionName := vendorBoot
  salt := [0xd0, 0x0d]
  digest := [0xfe, 0xed]
  flags := 0

/-- A hashtree descriptor for the same partition, with a salt of its own. -/
def exampleHashtree : AvbHashtreeDescriptor where
  dmVerityVersion := 1
  imageSize := 8192
  treeOffset := 8192
  treeSize := 4096
  dataBlockSize := 4096
  hashBlockSize := 4096
  fecNumRoots := 0
  fecOffset := 0
  fecSize := 0
  hashAlgorithm := ⟨"sha1".toList, by decide +kernel⟩
  partitionName := vendorBoot
  salt := [0x11]
  rootDigest := [0x22]
  flags := 0

/-- The descriptors of an image in front of its hash descriptor -/
def exampleAvbInfo (front : List AvbDescriptor) : AvbImageInfo where
  footer := some ((1, 0), ⟨8192, 8192, 512⟩)
  imageSize := 131072
  sparse := false
  header := {
    requiredLibavbVersionMajor := 1
    requiredLibavbVersionMinor := 0
    authenticationDataBlockSize := 0
    auxiliaryDataBlockSize := 256
    algorithmType := 0
    hashOffset := 0
    hashSize := 0
    signatureOffset := 0
    signatureSize := 0
    publicKeyOffset := 0
    publicKeySize := 0
    publicKeyMetadataOffset := 0
    publicKeyMetadataSize := 0
    descriptorsOffset := 0
    descriptorsSize := 256
    rollbackIndex := 0
    flags := 0
    rollbackIndexLocation := 0
    releaseString := "avbtool 1.3.0".toList }
  keyBlob := []
  descriptors := front ++ [.hash exampleHash]

/-- No key is printed for these images. -/
def noKeys (_ : Bytes) : Bytes :=
  []

/-- A property in front of the hash descriptor does no harm. -/
theorem readAvb_exact_iff_example :
    ∃ text,
      infoImage noKeys
            (exampleAvbInfo [.property ⟨"os_version".toList, [0x31]⟩]) =
          some text ∧
        readAvb text =
          some ⟨"vendor_boot".toList, "8192".toList, "131072".toList,
            "d00d".toList⟩ := by
  have prints :
      (infoImage noKeys
        (exampleAvbInfo [.property ⟨"os_version".toList, [0x31]⟩])).isSome =
          true := rfl
  obtain ⟨text, printed⟩ := Option.isSome_iff_exists.mp prints
  have unshadowed :
      Unshadowed noKeys
        (exampleAvbInfo [.property ⟨"os_version".toList, [0x31]⟩])
        exampleHash.salt := by
    refine (unshadowed_iff_of_tame (by decide +kernel) ?_ _).mpr
      ⟨fun name member => (Option.not_mem_none name member).elim,
        fun salt member => (Option.not_mem_none salt member).elim⟩
    intro desc member
    rw [List.mem_singleton.mp member]
    intro piece inside
    rw [List.mem_singleton.mp inside]
    decide +kernel
  refine ⟨text, printed, ?_⟩
  rw [(readAvb_exact_iff printed rfl rfl).mpr unshadowed]
  decide +kernel

/-- The salt of a hashtree descriptor is taken for that of the image. -/
theorem readAvb_takes_hashtree :
    ¬ ∀ (info : AvbImageInfo) (text : Text) (version : Nat × Nat)
        (footer : AvbFooter) (hash : AvbHashDescriptor),
      infoImage noKeys info = some text →
      info.footer = some (version, footer) →
      info.descriptors.filter AvbDescriptor.isVendorBootHash =
        [.hash hash] →
      readAvb text = some (info.parameters footer hash) := by
  intro exact
  have prints :
      (infoImage noKeys
        (exampleAvbInfo [.hashtree exampleHashtree])).isSome = true := rfl
  obtain ⟨text, printed⟩ := Option.isSome_iff_exists.mp prints
  have wanted := exact _ text _ _ exampleHash printed rfl rfl
  have right :=
    (readAvb_eq_parameters_iff printed rfl rfl).mp wanted
  exact absurd right.2 (by decide +kernel)

/-- A chain partition in front makes the script turn the image away. -/
example :
    ¬ Unshadowed noKeys
      (exampleAvbInfo [.chainPartition ⟨1, "boot".toList, [], 0⟩])
      exampleHash.salt := by
  intro unshadowed
  exact absurd (unshadowed.name "boot".toList (by decide +kernel))
    (by decide +kernel)

end OverclockBuilder
