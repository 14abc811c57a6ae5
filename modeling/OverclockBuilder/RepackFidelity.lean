import OverclockBuilder.RepackArguments

namespace OverclockBuilder

open RadixText WordText ArgumentText BashText CNumber

/-!
# What mkbootimg receives

The words of `$ARGS` are the formatted arguments, quotes included, with the
word behind the first one ending in `--dtb` replaced.  They are the intended
arguments exactly when nothing was quoted and the first such word is the flag.
-/

/-- Header fields that survive the way through the script. -/
structure Repackable (info : VendorBootInfo) : Prop where
  cmdline : Plain info.cmdline
  productName : Plain info.productName
  cmdlineFlag : ¬ EndsInDtb info.cmdline
  productFlag : ¬ EndsInDtb info.productName
  ramdiskNames :
    3 < info.headerVersion →
      ∀ entry ∈ info.vendorRamdiskTable, Plain entry.ramdiskName

instance (info : VendorBootInfo) : Decidable (Repackable info) :=
  decidable_of_iff
    (Plain info.cmdline ∧ Plain info.productName ∧
      ¬ EndsInDtb info.cmdline ∧ ¬ EndsInDtb info.productName ∧
        (3 < info.headerVersion →
          ∀ entry ∈ info.vendorRamdiskTable, Plain entry.ramdiskName))
    ⟨fun ⟨cmdline, name, cmdlineFlag, productFlag, names⟩ =>
        ⟨cmdline, name, cmdlineFlag, productFlag, names⟩,
      fun ⟨cmdline, name, cmdlineFlag, productFlag, names⟩ =>
        ⟨cmdline, name, cmdlineFlag, productFlag, names⟩⟩

/-! ## The words of the argument text -/

/-- Words that are no flag are passed over. -/
theorem replaceOperand_skip
    {word : Text}
    (other : ¬ EndsInDtb word)
    (operand next : Text)
    (rest : List Text) :
    replaceOperand "--dtb".toList operand (word :: next :: rest) =
      word :: replaceOperand "--dtb".toList operand (next :: rest) :=
  if_neg other

/-- The word behind the first flag is replaced. -/
theorem replaceOperand_hit
    {word : Text}
    (flag : EndsInDtb word)
    (operand next : Text)
    (rest : List Text) :
    replaceOperand "--dtb".toList operand (word :: next :: rest) =
      word :: operand :: rest :=
  if_pos flag

/-- A line without newlines survives being printed and captured. -/
theorem commandSubstitution_line
    {line : Text}
    (oneLine : '\n' ∉ line) :
    commandSubstitution (line ++ ['\n']) = line := by
  rw [commandSubstitution, List.rdropWhile_concat_pos _ _ _ (by simp),
    List.rdropWhile_eq_self_iff]
  intro nonempty newline
  rw [decide_eq_true_eq] at newline
  exact oneLine (newline ▸ List.getLast_mem nonempty)

theorem not_mem_intercalate
    {character separator : Char}
    (different : character ≠ separator)
    {texts : List Text}
    (absent : ∀ text ∈ texts, character ∉ text) :
    character ∉ [separator].intercalate texts := by
  induction texts with
  | nil =>
      simp
  | cons text rest inductionHypothesis =>
      have tailAbsent := inductionHypothesis fun other member =>
        absent other (List.mem_cons_of_mem text member)
      have headAbsent := absent text List.mem_cons_self
      cases rest with
      | nil =>
          simpa using headAbsent
      | cons next rest =>
          have joined :
              [separator].intercalate (text :: next :: rest) =
                text ++ separator :: [separator].intercalate
                  (next :: rest) := by
            simp [List.intercalate]
          rw [joined, List.mem_append, List.mem_cons]
          rintro (inHead | here | inTail)
          · exact headAbsent inHead
          · exact different here
          · exact tailAbsent inTail

/-- Solid texts hold neither of the two blanks the script works with. -/
theorem blankless_of_solid
    {text : Text}
    (solid : Solid isIfsBlank text) :
    ' ' ∉ text ∧ '\n' ∉ text := by
  refine ⟨fun space => ?_, fun newline => ?_⟩
  · exact absurd (solid.2 ' ' space) (by decide)
  · exact absurd (solid.2 '\n' newline) (by decide)

section Words

variable {info : VendorBootInfo} {work : Text}

/-- `$WORK/dtb_oc` is one plain word. -/
theorem plain_dtbOc
    (plainWork : work.all isWorkCharacter = true) :
    Plain (dtbOc work) :=
  plain_pathJoin (isSafe_of_isWorkCharacter plainWork) (by decide +kernel)

/-- As long as no argument holds a blank, `sed` works on whole words. -/
theorem words_argsText
    (plainWork : work.all isWorkCharacter = true)
    (solid :
      ∀ argument ∈ info.formatMkbootimgArgument,
        Solid isIfsBlank argument) :
    words isIfsBlank (argsText info work) =
      replaceOperand "--dtb".toList (dtbOc work)
        (info.formatMkbootimgArgument.map shlexQuote) := by
  let texts := info.formatMkbootimgArgument.map shlexQuote
  let replaced := replaceOperand "--dtb".toList (dtbOc work) texts
  have solidTexts : ∀ text ∈ texts, Solid isIfsBlank text := by
    intro text member
    obtain ⟨argument, inList, rfl⟩ := List.mem_map.mp member
    exact solid_shlexQuote (by decide) (by decide) (solid argument inList)
  have solidReplaced : ∀ word ∈ replaced, Solid isIfsBlank word := by
    intro word member
    rcases mem_replaceOperand member with rfl | inTexts
    · exact solid_of_plain isSafe_of_isIfsBlank (plain_dtbOc plainWork)
    · exact solidTexts word inTexts
  have oneLine
      {parts : List Text}
      (solidParts : ∀ part ∈ parts, Solid isIfsBlank part) :
      '\n' ∉ [' '].intercalate parts :=
    not_mem_intercalate (by decide) fun part member =>
      (blankless_of_solid (solidParts part member)).2
  have read :
      commandSubstitution (mkbootimgArgsTxt info) =
        [' '].intercalate texts :=
    commandSubstitution_line (oneLine solidTexts)
  have edited :
      sedDtb (dtbOc work) ([' '].intercalate texts) =
        [' '].intercalate replaced ++ ['\n'] := by
    rw [sedDtb, List.splitOn_eq_singleton (oneLine solidTexts),
      List.flatMap_singleton,
      substituteOperand_intercalate (by decide) (by decide) fun text member =>
        (blankless_of_solid (solidTexts text member)).1]
  calc
    words isIfsBlank (argsText info work) =
        words isIfsBlank ([' '].intercalate replaced) := by
      rw [argsText, read, edited,
        commandSubstitution_line (oneLine solidReplaced)]
    _ = replaced :=
      words_intercalate_of_solid (by decide) solidReplaced

/-! ## The shape of the argument list -/

/-- With a dtb section, `--dtb` and its operand are part of the list. -/
theorem argumentsWithDtb_of_dtb
    (dtb : 0 < info.dtbSize)
    (operand : Text) :
    info.argumentsWithDtb operand =
      (info.addressArguments ++ ["--vendor_cmdline".toList]) ++
        info.cmdline :: "--board".toList :: info.productName ::
          "--dtb".toList :: operand :: info.ramdiskArguments := by
  simp [VendorBootInfo.argumentsWithDtb, dtb]

/-- The arguments up to `--vendor_cmdline` are never quoted. -/
theorem leadingArguments_plain
    {argument : Text}
    (member :
      argument ∈ info.addressArguments ++ ["--vendor_cmdline".toList]) :
    Plain argument ∧ ¬ EndsInDtb argument := by
  rw [List.mem_append, List.mem_singleton] at member
  rcases member with address | rfl
  · exact addressArguments_plain info address
  · exact ⟨by decide +kernel, by decide +kernel⟩

theorem map_shlexQuote_eq_self_iff {arguments : List Text} :
    arguments.map shlexQuote = arguments ↔
      ∀ argument ∈ arguments, Plain argument := by
  have unchanged :
      arguments.map shlexQuote = arguments ↔
        ∀ argument ∈ arguments, shlexQuote argument = id argument := by
    rw [← List.map_inj_left, List.map_id]
  rw [unchanged]
  exact forall₂_congr fun argument _ => shlexQuote_eq_self_iff

/-- What `sed` does to the quoted arguments. -/
theorem replaceOperand_quoted
    (dtb : 0 < info.dtbSize)
    (operand : Text) :
    replaceOperand "--dtb".toList operand
        (info.formatMkbootimgArgument.map shlexQuote) =
      (info.addressArguments ++ ["--vendor_cmdline".toList]) ++
        replaceOperand "--dtb".toList operand
          (shlexQuote info.cmdline :: "--board".toList ::
            shlexQuote info.productName :: "--dtb".toList ::
              shlexQuote (pathJoin info.imageDir "dtb".toList) ::
                info.ramdiskArguments.map shlexQuote) := by
  have leading :
      (info.addressArguments ++ ["--vendor_cmdline".toList]).map
          shlexQuote =
        info.addressArguments ++ ["--vendor_cmdline".toList] :=
    map_shlexQuote_eq_self_iff.mpr fun argument member =>
      (leadingArguments_plain member).1
  have board : shlexQuote "--board".toList = "--board".toList := by
    decide +kernel
  have flag : shlexQuote "--dtb".toList = "--dtb".toList := by
    decide +kernel
  rw [VendorBootInfo.formatMkbootimgArgument, argumentsWithDtb_of_dtb dtb,
    List.map_append, leading, List.map_cons, List.map_cons, List.map_cons,
    List.map_cons, List.map_cons, board, flag]
  refine replaceOperand_append ?_ _ _
  intro word member
  exact Bool.eq_false_iff.mpr (leadingArguments_plain member).2

end Words

/-! ## When the arguments are the intended ones -/

section Fidelity

variable {info : VendorBootInfo} {work : Text}

/-- Plain fields pass through unchanged. -/
theorem receivedArguments_of_repackable
    (dtb : 0 < info.dtbSize)
    (plainWork : work.all isWorkCharacter = true)
    (imageDir : info.imageDir = pathJoin work "unpack".toList)
    (repackable : Repackable info)
    {glob : Text → List Text}
    (lawful : LawfulGlob glob) :
    receivedArguments glob info work = expectedArguments info work := by
  have safeWork := isSafe_of_isWorkCharacter plainWork
  have safeDir : info.imageDir.all isSafe = true := by
    rw [imageDir]
    exact (plain_pathJoin safeWork (by decide +kernel)).safe
  have ramdisks :
      ∀ argument ∈ info.ramdiskArguments, Plain argument :=
    (ramdiskArguments_plain_iff safeDir).mpr repackable.ramdiskNames
  have plainWith
      {operand : Text}
      (plainOperand : Plain operand) :
      ∀ argument ∈ info.argumentsWithDtb operand, Plain argument := by
    intro argument member
    rw [argumentsWithDtb_of_dtb dtb, List.mem_append] at member
    rcases member with leading | member
    · exact (leadingArguments_plain leading).1
    · simp only [List.mem_cons] at member
      rcases member with rfl | rfl | rfl | rfl | rfl | behind
      · exact repackable.cmdline
      · decide +kernel
      · exact repackable.productName
      · decide +kernel
      · exact plainOperand
      · exact ramdisks argument behind
  have dtbPath : Plain (pathJoin info.imageDir "dtb".toList) :=
    plain_pathJoin safeDir (by decide +kernel)
  have formatted := plainWith dtbPath
  have expected := plainWith (plain_dtbOc plainWork)
  have cut :
      words isIfsBlank (argsText info work) =
        expectedArguments info work := by
    rw [words_argsText plainWork fun argument member =>
        solid_of_plain isSafe_of_isIfsBlank (formatted argument member),
      replaceOperand_quoted dtb, expectedArguments,
      argumentsWithDtb_of_dtb dtb,
      shlexQuote_of_plain repackable.cmdline,
      shlexQuote_of_plain repackable.productName,
      map_shlexQuote_eq_self_iff.mpr ramdisks]
    have cmdlineFlag := repackable.cmdlineFlag
    have productFlag := repackable.productFlag
    have board : ¬ EndsInDtb "--board".toList := by
      decide +kernel
    have flag : EndsInDtb "--dtb".toList := by
      decide +kernel
    rw [replaceOperand_skip cmdlineFlag, replaceOperand_skip board,
      replaceOperand_skip productFlag, replaceOperand_hit flag]
  rw [receivedArguments, cut]
  have unchanged :
      (expectedArguments info work).flatMap glob =
        (expectedArguments info work).flatMap fun word => [word] :=
    List.flatMap_congr fun word member =>
      lawful word (expected word member)
  rw [unchanged, List.flatMap_singleton']

/-- Where no file name matches, other fields do not pass through. -/
theorem repackable_of_receivedArguments
    (dtb : 0 < info.dtbSize)
    (plainWork : work.all isWorkCharacter = true)
    (imageDir : info.imageDir = pathJoin work "unpack".toList)
    (same :
      receivedArguments (fun word => [word]) info work =
        expectedArguments info work) :
    Repackable info := by
  have safeWork := isSafe_of_isWorkCharacter plainWork
  have safeDir : info.imageDir.all isSafe = true := by
    rw [imageDir]
    exact (plain_pathJoin safeWork (by decide +kernel)).safe
  rw [receivedArguments, List.flatMap_singleton'] at same
  -- words hold no blanks, so the arguments hold none either
  have solidExpected :
      ∀ argument ∈ expectedArguments info work,
        Solid isIfsBlank argument := by
    rw [← same]
    intro argument member
    exact solid_of_mem_words member
  have solidFormatted :
      ∀ argument ∈ info.formatMkbootimgArgument,
        Solid isIfsBlank argument := by
    intro argument member
    rw [expectedArguments, argumentsWithDtb_of_dtb dtb] at solidExpected
    rw [VendorBootInfo.formatMkbootimgArgument,
      argumentsWithDtb_of_dtb dtb] at member
    rcases List.mem_append.mp member with leading | field
    · exact solidExpected argument (List.mem_append_left _ leading)
    · rw [List.mem_cons, List.mem_cons, List.mem_cons, List.mem_cons,
        List.mem_cons] at field
      rcases field with rfl | rfl | rfl | rfl | rfl | ramdisk
      · exact solidExpected _ (by simp)
      · exact solidExpected _ (by simp)
      · exact solidExpected _ (by simp)
      · exact solidExpected _ (by simp)
      · exact solid_of_plain isSafe_of_isIfsBlank
          (plain_pathJoin safeDir (by decide +kernel))
      · exact solidExpected argument (by simp [ramdisk])
  rw [words_argsText plainWork solidFormatted, replaceOperand_quoted dtb,
    expectedArguments, argumentsWithDtb_of_dtb dtb,
    List.append_cancel_left_eq] at same
  have board : ¬ EndsInDtb "--board".toList := by
    decide +kernel
  have flag : EndsInDtb "--dtb".toList := by
    decide +kernel
  -- the operand is a path and neither of the two flags
  have slash : '/' ∈ dtbOc work := by
    simp [dtbOc, pathJoin]
  have notBoard : dtbOc work ≠ "--board".toList := by
    intro isBoard
    rw [isBoard] at slash
    exact absurd slash (by decide +kernel)
  have notFlag : dtbOc work ≠ "--dtb".toList := by
    intro isFlag
    rw [isFlag] at slash
    exact absurd slash (by decide +kernel)
  by_cases cmdlineFlag : EndsInDtb (shlexQuote info.cmdline)
  · rw [replaceOperand_hit cmdlineFlag, List.cons.injEq,
      List.cons.injEq] at same
    exact (notBoard same.2.1).elim
  · rw [replaceOperand_skip cmdlineFlag, replaceOperand_skip board,
      List.cons.injEq, List.cons.injEq] at same
    obtain ⟨sameCmdline, -, same⟩ := same
    by_cases productFlag : EndsInDtb (shlexQuote info.productName)
    · rw [replaceOperand_hit productFlag, List.cons.injEq,
        List.cons.injEq] at same
      exact (notFlag same.2.1).elim
    · rw [replaceOperand_skip productFlag, replaceOperand_hit flag,
        List.cons.injEq, List.cons.injEq, List.cons.injEq] at same
      obtain ⟨sameProduct, -, -, sameRamdisks⟩ := same
      rw [sameCmdline] at cmdlineFlag
      rw [sameProduct] at productFlag
      exact {
        cmdline := shlexQuote_eq_self_iff.mp sameCmdline
        productName := shlexQuote_eq_self_iff.mp sameProduct
        cmdlineFlag := cmdlineFlag
        productFlag := productFlag
        ramdiskNames :=
          (ramdiskArguments_plain_iff safeDir).mp
            (map_shlexQuote_eq_self_iff.mp sameRamdisks) }

/--
The arguments `mkbootimg.py` receives are the formatted ones, with
`$WORK/dtb_oc` as the dtb, in every directory the script may run in, exactly
when the header's texts need no quotes and neither of the first two ends in
`--dtb`.
-/
theorem receivedArguments_eq_iff
    (dtb : 0 < info.dtbSize)
    (plainWork : work.all isWorkCharacter = true)
    (imageDir : info.imageDir = pathJoin work "unpack".toList) :
    (∀ glob, LawfulGlob glob →
        receivedArguments glob info work = expectedArguments info work) ↔
      Repackable info := by
  refine ⟨fun same => ?_, fun repackable glob lawful => ?_⟩
  · exact repackable_of_receivedArguments dtb plainWork imageDir
      (same _ fun _ _ => rfl)
  · exact receivedArguments_of_repackable dtb plainWork imageDir
      repackable lawful

end Fidelity

/-! ## Two images -/

/-- A version 4 header with the given texts and one ramdisk fragment. -/
def exampleInfo (cmdline productName : String) : VendorBootInfo where
  headerVersion := 4
  pageSize := 4096
  kernelLoadAddress := 0x40080000
  ramdiskLoadAddress := 0x47c80000
  tagsLoadAddress := 0x4bc80000
  dtbLoadAddress := 0x4bc80000
  cmdline := cmdline.toList
  productName := productName.toList
  dtbSize := 150000
  vendorRamdiskTable := [⟨1, "first".toList, [0, 0, 7]⟩]
  imageDir := "/tmp/tmp.a/unpack".toList

theorem receivedArguments_eq_iff_plain :
    (∀ glob, LawfulGlob glob →
      receivedArguments glob (exampleInfo "bootopt=64S3,32N2,64N2" "mt6768")
          "/tmp/tmp.a".toList =
        expectedArguments (exampleInfo "bootopt=64S3,32N2,64N2" "mt6768")
          "/tmp/tmp.a".toList) ↔
      Repackable (exampleInfo "bootopt=64S3,32N2,64N2" "mt6768") :=
  receivedArguments_eq_iff (by decide) (by decide +kernel)
    (by decide +kernel)

/-- The empty product name of many images arrives as two quotes. -/
theorem receivedArguments_empty_productName :
    receivedArguments (fun word => [word])
        (exampleInfo "bootopt=64S3,32N2,64N2" "") "/tmp/tmp.a".toList ≠
      expectedArguments (exampleInfo "bootopt=64S3,32N2,64N2" "")
        "/tmp/tmp.a".toList := by
  decide +kernel

/-- A blank in front of a `--dtb` on the command line keeps the stock dtb. -/
example :
    "/tmp/tmp.a/unpack/dtb".toList ∈
      receivedArguments (fun word => [word])
        (exampleInfo "console=ttyS0 --dtb none" "mt6768")
        "/tmp/tmp.a".toList := by
  decide +kernel

end OverclockBuilder
