import OverclockBuilder.MenuVoltage
import OverclockBuilder.OutputSafety

namespace OverclockBuilder

open RadixText WordText BytePacking CNumber BashText LabelTree
open ArgumentParser

/-!
# Runs that print BUILD BERHASIL

A finished run takes the device tree of the input through the apply stage, a new
table, the argument text, the packer and the footer, and reads the result back.
Which file the packer takes for the device tree is decided by the last `--dtb`
of the argument text, and how much of its image survives by the footer.
-/

/-! ## Finished runs -/

/-- The operands of `--dtb` that `argparse` finds, in order. -/
def dtbOperands : List Text → List Text
  | [] =>
      []
  | word :: rest =>
      if word = "--dtb".toList then
        rest.head?.toList ++ dtbOperands rest
      else if "--dtb=".toList.isPrefixOf word then
        word.drop 6 :: dtbOperands rest
      else
        dtbOperands rest

/-- The last one counts. -/
def dtbOperand (words : List Text) : Option Text :=
  (dtbOperands words).getLast?

/-- A run that prints `BUILD BERHASIL`, and what its commands read and wrote. -/
structure FinishedRun where
  surroundings : Surroundings
  stock : Stock
  /-- the lines of the standard input -/
  lines : List Text
  before : Files
  after : Files
  finished :
    BuilderRun surroundings stock lines before after .success
  /-- pathname expansion -/
  glob : Text → List Text
  /-- `$WORK` -/
  work : Text
  info : VendorBootInfo
  inWork : info.imageDir = pathJoin work "unpack".toList
  /-- `unpack/dtb` -/
  unpackedDtb : Bytes
  unpacked : unpackDtb before.input = some unpackedDtb
  stockTree : DeviceTree
  extracted : readTable unpackedDtb = some stockTree
  accepted : readStock stockTree = some stock
  patchedTree : DeviceTree
  applied :
    applyStage stock (runMenus stock lines).2.vars stockTree =
      some patchedTree
  /-- `mt6768_oc.dtb` behind the last `fdtput` -/
  patchedBlob : Bytes
  patched : readBlob patchedBlob = some patchedTree
  /-- `dtb_oc` -/
  table : Bytes
  rebuilt : rebuildTable unpackedDtb patchedBlob = some table
  /-- the files `mkbootimg.py` can open -/
  disk : Text → Option Bytes
  tableOnDisk : disk (dtbOc work) = some table
  unpackedOnDisk :
    disk (pathJoin info.imageDir "dtb".toList) = some unpackedDtb
  /-- the last operand of `--dtb` -/
  operand : Text
  received : dtbOperand (receivedArguments glob info work) = some operand
  arguments : VendorBootArguments
  opened : disk operand = some arguments.dtb
  packed : arguments.writeVendorBoot = some surroundings.payload
  /-- `OUTPUT` -/
  image : Bytes
  published : after.output (runOutputName stock lines) = some image
  /-- `verify/dtb` -/
  verifiedDtb : Bytes
  unpackedAgain : unpackDtb image = some verifiedDtb
  finalTree : DeviceTree
  extractedAgain : readTable verifiedDtb = some finalTree
  report : List (Text × Intmax)
  printed : finalLoop [littleTable, bigTable] finalTree = some report

namespace FinishedRun

/-- The variables behind the menus. -/
def vars (run : FinishedRun) : Vars :=
  (runMenus run.stock run.lines).2.vars

/-- The packer takes the new table, and the footer leaves it whole. -/
structure PacksPatched (run : FinishedRun) : Prop where
  operand : run.operand = dtbOc run.work
  uncut : Uncut run.surroundings.payload run.arguments.dtbEnd

/-- The packer takes the unpacked file again. -/
structure PacksUnpacked (run : FinishedRun) : Prop where
  operand : run.operand = pathJoin run.info.imageDir "dtb".toList
  uncut : Uncut run.surroundings.payload run.arguments.dtbEnd

/-- The menus hand a whole number of megahertz from 1 to 500 to the build. -/
def AddsMegahertz (run : FinishedRun) : Prop :=
  ∃ n, 1 ≤ n ∧ n ≤ 500 ∧
    run.vars.addHz = some (Int64.ofNat (n * 1000000))

/-- The section that is packed is the section that is verified. -/
theorem verifiedDtb_eq
    (run : FinishedRun)
    (uncut : Uncut run.surroundings.payload run.arguments.dtbEnd)
    (nonempty : 0 < run.arguments.dtb.length) :
    run.verifiedDtb = run.arguments.dtb := by
  obtain ⟨succeeded, output⟩ := builderRun_success run.finished rfl
  have again :=
    unpackDtb_addHashFooter run.packed uncut nonempty succeeded
  rw [run.published, Option.some.injEq] at output
  rw [← output, run.unpackedAgain, Option.some.injEq] at again
  exact again

theorem finalTree_of_packsPatched
    {run : FinishedRun}
    (packs : run.PacksPatched) :
    run.finalTree = run.patchedTree := by
  obtain ⟨cut, nonempty⟩ := extractBlob_rebuildTable run.rebuilt
  have isTable : run.arguments.dtb = run.table := by
    have opened := run.opened
    rw [packs.operand, run.tableOnDisk, Option.some.injEq] at opened
    exact opened.symm
  have again := run.extractedAgain
  rw [run.verifiedDtb_eq packs.uncut (isTable ▸ nonempty), isTable,
    readTable, cut, Option.bind_some, run.patched, Option.some.injEq]
    at again
  exact again.symm

theorem finalTree_of_packsUnpacked
    {run : FinishedRun}
    (packs : run.PacksUnpacked) :
    run.finalTree = run.stockTree := by
  have isUnpacked : run.arguments.dtb = run.unpackedDtb := by
    have opened := run.opened
    rw [packs.operand, run.unpackedOnDisk, Option.some.injEq] at opened
    exact opened.symm
  have nonempty : 0 < run.unpackedDtb.length := by
    rw [List.length_pos_iff]
    intro empty
    have extracted := run.extracted
    rw [empty] at extracted
    cases extracted
  have again := run.extractedAgain
  rw [run.verifiedDtb_eq packs.uncut (isUnpacked ▸ nonempty), isUnpacked,
    run.extracted, Option.some.injEq] at again
  exact again.symm

/-- A pair that the build changes is a pair of numbers. -/
theorem typed
    (run : FinishedRun)
    (changed : voltageChanged run.stock run.vars = true)
    (cluster : Cluster) :
    isDecimal (cluster.voltage run.vars) = true := by
  obtain ⟨last, -, reached⟩ := runMenus_reachable run.stock run.lines
  have pair :=
    typedPair_of_changed (reachable_voltageInvariant reached) changed
  cases cluster with
  | little =>
      exact pair.littleDecimal
  | big =>
      exact pair.bigDecimal

/-- The verified tree and the printed lines are what was configured. -/
def Sound (run : FinishedRun) : Prop :=
  OverclockBuilder.Sound run.stock run.vars run.finalTree run.report

/-- The conditions on the stock tree and the configuration. -/
def Carries (run : FinishedRun) : Prop :=
  OverclockBuilder.Carries run.stock run.vars run.stockTree

theorem sound_of_packsPatched
    {run : FinishedRun}
    (packs : run.PacksPatched) :
    run.Sound ↔ run.Carries := by
  have printed := run.printed
  rw [finalTree_of_packsPatched packs] at printed
  rw [Sound, finalTree_of_packsPatched packs]
  exact sound_iff_carries run.accepted run.typed run.applied printed

/--
A run that packs the new table is sound exactly when both new frequencies fit
one cell, the voltages are unchanged or stored as shown, and the node listed
last in each table is `opp15` or shows the new frequency already.  A run that
packs the unpacked file again is not sound.
-/
theorem sound_iff (run : FinishedRun) :
    (run.PacksPatched → (run.Sound ↔ run.Carries)) ∧
      (run.PacksUnpacked → run.AddsMegahertz → ¬ run.Sound) := by
  refine ⟨sound_of_packsPatched, ?_⟩
  rintro packs ⟨n, positive, bounded, added⟩
  rw [Sound, finalTree_of_packsUnpacked packs]
  exact not_sound_of_stock run.accepted positive bounded added run.report

end FinishedRun

/-! ## Runs on an image that finish -/

/-- A word of `--dtb` -/
def isDtbWord (word : Text) : Bool :=
  word = "--dtb".toList || "--dtb=".toList.isPrefixOf word

theorem dtbOperands_append
    {front : List Text}
    (other : ∀ word ∈ front, isDtbWord word = false)
    (back : List Text) :
    dtbOperands (front ++ back) = dtbOperands back := by
  induction front with
  | nil =>
      rfl
  | cons word front inductionHypothesis =>
      rw [List.forall_mem_cons, isDtbWord, Bool.or_eq_false_iff,
        decide_eq_false_iff_not] at other
      obtain ⟨⟨notFlag, notAssigned⟩, behind⟩ := other
      rw [List.cons_append, dtbOperands, if_neg notFlag,
        if_neg (Bool.eq_false_iff.mp notAssigned), inductionHypothesis behind]

/-- No word that is left over is one of `--dtb`. -/
theorem isDtbWord_of_leftOver
    {word : Text}
    (leftOver : LeftOver bootOptions word) :
    isDtbWord word = false := by
  by_contra isWord
  rw [Bool.not_eq_false, isDtbWord, Bool.or_eq_true, decide_eq_true_eq]
    at isWord
  rcases isWord with rfl | assigned
  · obtain ⟨-, unknown, -⟩ := (leftOver_iff rfl).mp leftOver
    exact absurd unknown (by decide +kernel)
  · obtain ⟨operand, rfl⟩ := List.isPrefixOf_iff_prefix.mp assigned
    have read :
        readAssignment bootOptions ("--dtb=".toList ++ operand) =
          some (.assignment .dtb operand) :=
      rfl
    obtain ⟨-, -, single | ⟨notAssigned, -⟩⟩ := (leftOver_iff rfl).mp leftOver
    · cases single
    · rw [read] at notAssigned
      cases notAssigned

/-- Of the printed words one pair is of `--dtb`. -/
theorem dtbOperand_argumentsWithDtb
    {info : VendorBootInfo}
    (readable : Readable info)
    (boardIds :
      ∀ entry ∈ info.vendorRamdiskTable, entry.boardId.length = 16)
    (present : 0 < info.dtbSize)
    {operand : Text}
    (isValue : IsValue bootOptions operand) :
    dtbOperand (info.argumentsWithDtb operand) = some operand := by
  have words :
      info.argumentsWithDtb operand =
        ((fieldPairs info).flatMap fun pair => [pair.1, pair.2.2]) ++
          "--dtb".toList :: operand ::
            ([(ramdiskPair info).1, (ramdiskPair info).2.2] ++
              tableWords info) := by
    rw [argumentsWithDtb_eq, imagePairs, if_pos present,
      List.flatMap_append, List.flatMap_append]
    simp only [List.append_assoc]
    rfl
  have fieldFlag :
      ∀ pair ∈ fieldPairs info, isDtbWord pair.1 = false := by
    intro pair member
    simp only [fieldPairs, List.mem_cons, List.not_mem_nil, or_false]
      at member
    rcases member with rfl | rfl | rfl | rfl | rfl | rfl | rfl | rfl | rfl <;>
      rfl
  have ramdiskFlag : isDtbWord (ramdiskPair info).1 = false := by
    rw [ramdiskPair]
    split <;>
      rfl
  have value {pair : Text × BootOption × Text}
      (member : pair ∈ imagePairs info operand) :
      isDtbWord pair.2.2 = false :=
    isDtbWord_of_leftOver
      (readArgument_imagePairs readable isValue member).2.leftOver
  have front :
      ∀ word ∈ (fieldPairs info).flatMap fun pair => [pair.1, pair.2.2],
        isDtbWord word = false := by
    intro word member
    obtain ⟨pair, inPairs, inPair⟩ := List.mem_flatMap.mp member
    rw [List.mem_cons, List.mem_singleton] at inPair
    rcases inPair with rfl | rfl
    · exact fieldFlag pair inPairs
    · exact value (List.mem_append_left _ (List.mem_append_left _ inPairs))
  have back :
      ∀ word ∈ operand :: ([(ramdiskPair info).1, (ramdiskPair info).2.2] ++
          tableWords info),
        isDtbWord word = false := by
    intro word member
    simp only [List.mem_cons, List.mem_append, List.not_mem_nil, or_false]
      at member
    rcases member with rfl | (rfl | rfl) | inTable
    · exact isDtbWord_of_leftOver isValue.leftOver
    · exact ramdiskFlag
    · exact value (List.mem_append_right _ List.mem_cons_self)
    · exact isDtbWord_of_leftOver
        (VendorBoot.leftOver_tableWords readable boardIds word inTable)
  have behind := dtbOperands_append back []
  rw [List.append_nil] at behind
  rw [dtbOperand, words, dtbOperands_append front, dtbOperands, if_pos rfl,
    behind]
  rfl

/-- A finished run is what a run on a machine comes to. -/
structure ScriptRun.Finishes
    (run : ScriptRun)
    (scan : Scan)
    (finished : FinishedRun) :
    Prop where
  scanned : run.machine.scan run.record.before.input = some scan
  surroundings : finished.surroundings = run.record.surroundings
  stock : finished.stock = run.record.stock
  lines : finished.lines = run.record.lines
  before : finished.before = run.record.before
  after : finished.after = run.record.after
  glob : finished.glob = run.machine.glob
  work : finished.work = run.machine.work
  info : finished.info = scan.info
  unpackedDtb : finished.unpackedDtb = scan.unpackedDtb
  made :
    mkbootimg finished.disk (run.machine.bootWords scan.info) =
      some run.record.surroundings.payload
  partitionSize :
    pyInt 10 scan.parameters.imageSize =
      some run.record.surroundings.partitionSize
  packs : finished.PacksPatched

/-- The stock table is what the scan has extracted. -/
theorem extractBlob_of_extractStockBlob
    {file blob : Bytes}
    (extracted : extractStockBlob file = some blob) :
    extractBlob file = some blob := by
  simp only [extractStockBlob, Option.bind_eq_bind, Option.bind_eq_some_iff]
    at extracted
  obtain ⟨dtinfo, isDump, single⟩ := extracted
  rw [extractBlob, isDump, Option.bind_eq_bind, Option.bind_some]
  split at single
  · cases single
  · exact single

/-- Such an image is unpacked into its device tree. -/
theorem Contents.unpackDtb_input
    {machine : Machine}
    {input : Bytes}
    {scan : Scan}
    {boot : VendorBoot}
    (contents : Contents machine input scan boot) :
    unpackDtb input = some scan.unpackedDtb := by
  obtain ⟨image, tail, written, rfl⟩ := contents.written
  rw [← contents.dtb]
  refine unpackDtb_of_take_eq written ?_ contents.nonempty
  exact List.take_append_of_le_length (dtbEnd_le_length written)

/-- The packer is given the new table. -/
theorem Contents.dtbOperand_received
    {machine : Machine}
    {input : Bytes}
    {scan : Scan}
    {boot : VendorBoot}
    (contents : Contents machine input scan boot)
    (repacks : Repacks input scan) :
    dtbOperand
        (receivedArguments machine.glob scan.info machine.work) =
      some (dtbOc machine.work) := by
  have readable := repacks.readable
  have repackable := repacks.repackable
  have boardIds := contents.boardIds
  rw [contents.info] at readable repackable boardIds ⊢
  rw [receivedArguments_of_repackable contents.nonempty machine.plainWork rfl
    repackable machine.lawful, expectedArguments]
  exact dtbOperand_argumentsWithDtb readable boardIds contents.nonempty
    (machine.isValue_work "dtb_oc".toList)

/-- A run that fits and succeeds is a finished run that packs the new table. -/
theorem ScriptRun.exists_finishedRun
    {run : ScriptRun}
    (fit : run.Fit)
    (succeeded : run.record.ending = .success) :
    ∃ scan finished, run.Finishes scan finished := by
  have reaches : run.record.ending.reachesCopy = true := by
    rw [succeeded]
    rfl
  cases scanned : run.machine.scan run.record.before.input with
  | none =>
      obtain ⟨command, stopped, -⟩ := run.refused fit.magic scanned
      rw [succeeded] at stopped
      cases stopped
  | some scan =>
      have suitable := fit.suitable scan scanned
      have repacks := suitable.repacks
      obtain ⟨packing⟩ := run.packs scan scanned reaches
      obtain ⟨boot, contents⟩ := exists_contents_of_repacks scanned repacks
      obtain ⟨tree, stored, shown⟩ := suitable.shown
      obtain ⟨-, -, -, -, found, extracted, read⟩ :=
        Machine.scan_eq_some_iff.mp scanned
      obtain ⟨patchedTree, applied, patched⟩ := packing.patched tree stored
      obtain ⟨cut, nonempty⟩ := extractBlob_rebuildTable packing.rebuilt
      have packed := packing.payload_of_repacks scanned repacks contents
      obtain ⟨served, footed, -⟩ :=
        builderRun_published run.record.run succeeded
      obtain ⟨-, published⟩ := builderRun_success run.record.run succeeded
      have uncut :
          Uncut run.record.surroundings.payload
            { boot with dtb := packing.table }.arguments.dtbEnd := by
        intro footer isFooter
        rw [packing.footerOf_payload scanned suitable] at isFooter
        cases isFooter
      have unpackedAgain :=
        unpackDtb_addHashFooter packed uncut nonempty footed
      have finalShown :
          ∀ table ∈ [littleTable, bigTable],
            (lastHex table patchedTree).isSome = true := by
        rw [List.forall_mem_cons, List.forall_mem_singleton]
        exact ⟨isSome_lastHex_applyStage applied (shown .little),
          isSome_lastHex_applyStage applied (shown .big)⟩
      obtain ⟨report, printed⟩ :=
        Option.isSome_iff_exists.mp (isSome_finalLoop finalShown)
      obtain ⟨front, back, areFiles, -⟩ := List.lookup_eq_some_iff.mp found
      have inFiles : ("dtb".toList, scan.unpackedDtb) ∈ scan.files := by
        rw [areFiles]
        exact List.mem_append_right _ List.mem_cons_self
      have unpackedOnDisk :
          packing.disk
              (pathJoin (pathJoin run.machine.work "unpack".toList)
                "dtb".toList) =
            some scan.unpackedDtb :=
        packing.unpackedOnDisk ("dtb".toList, scan.unpackedDtb) inFiles
      have accepted : readStock tree = some run.record.stock := by
        rw [← readStockFile_of_readBlob stored, read, run.stock scan scanned]
      have inWork :
          scan.info.imageDir =
            pathJoin run.machine.work "unpack".toList := by
        rw [contents.info]
        rfl
      have finished := run.record.run
      rw [succeeded] at finished
      refine ⟨scan,
        { surroundings := run.record.surroundings
          stock := run.record.stock
          lines := run.record.lines
          before := run.record.before
          after := run.record.after
          finished := finished
          glob := run.machine.glob
          work := run.machine.work
          info := scan.info
          inWork := inWork
          unpackedDtb := scan.unpackedDtb
          unpacked := contents.unpackDtb_input
          stockTree := tree
          extracted := by
            rw [readTable, extractBlob_of_extractStockBlob extracted,
              Option.bind_some, stored]
          accepted := accepted
          patchedTree := patchedTree
          applied := applied
          patchedBlob := packing.patchedBlob
          patched := patched
          table := packing.table
          rebuilt := packing.rebuilt
          disk := packing.disk
          tableOnDisk := packing.tableOnDisk
          unpackedOnDisk := by rw [inWork, unpackedOnDisk]
          operand := dtbOc run.machine.work
          received := contents.dtbOperand_received repacks
          arguments := { boot with dtb := packing.table }.arguments
          opened := packing.tableOnDisk
          packed := packed
          image := run.record.surroundings.footed.image
          published := published
          verifiedDtb := packing.table
          unpackedAgain := unpackedAgain
          finalTree := patchedTree
          extractedAgain := by
            rw [readTable, cut, Option.bind_some, patched]
          report := report
          printed := printed },
        ⟨scanned, rfl, rfl, rfl, rfl, rfl, rfl, rfl, rfl, rfl,
          packing.packed (opened_of_repacks scanned repacks).2,
          packing.partitionSize served, ⟨rfl, uncut⟩⟩⟩

/-! ## Two finished runs -/

/-- An example image has a run that finishes and packs the new table. -/
theorem ExampleImage.exists_finishedRun
    (image : ExampleImage)
    (isCmdline : image.cmdline = exampleCmdline)
    (aligned : image.partitionSize % blockSize = 0) :
    ∃ run : FinishedRun,
      run.before = image.files ∧ run.PacksPatched ∧
        run.stock = readmeStock ∧ run.lines = fiftyMhzLines ∧
          run.stockTree = image.tree := by
  have plain := plain_of_cmdline isCmdline
  have fit := plain.fit aligned rfl (plain.successRun aligned image.files)
  obtain ⟨scan, run, finishes⟩ := ScriptRun.exists_finishedRun fit rfl
  refine ⟨run, finishes.before, finishes.packs, finishes.stock,
    finishes.lines, ?_⟩
  have isScan : scan = image.scan := eq_scan rfl finishes.scanned
  obtain ⟨-, -, -, extracted⟩ := tableOf_spec image.tree_mem
  have read := run.extracted
  rw [finishes.unpackedDtb, isScan] at read
  rw [show image.scan.unpackedDtb = tableOf image.tree from rfl, readTable,
    extractBlob_of_extractStockBlob extracted, Option.bind_some,
    readBlob_exampleBlob image.tree_mem, Option.some.injEq] at read
  exact read.symm

/-- The conditions of a run are those of its stock tree. -/
theorem carries_iff_of_fiftyMhz
    {run : FinishedRun}
    (stock : run.stock = readmeStock)
    (lines : run.lines = fiftyMhzLines) :
    run.Carries ↔ Carries readmeStock fiftyMhzVars run.stockTree := by
  rw [FinishedRun.Carries, FinishedRun.vars, stock, lines, fiftyMhzVars]

theorem readmeTree_carries :
    Carries readmeStock fiftyMhzVars readmeTree where
  fits := by
    rintro (_ | _)
    · exact ⟨by decide +kernel, by decide +kernel⟩
    · exact ⟨by decide +kernel, by decide +kernel⟩
  stored := .inl (by decide +kernel)
  shows := by
    rintro (_ | _)
    · exact .inl ⟨"opp15".toList, by decide +kernel, by decide +kernel⟩
    · exact .inl ⟨"opp15".toList, by decide +kernel, by decide +kernel⟩

/-- A finished run that is sound. -/
theorem sound_iff_readme :
    ∃ run : FinishedRun,
      run.before = stockImage.files ∧ run.PacksPatched ∧ run.Carries ∧
        run.Sound := by
  obtain ⟨run, before, packs, stock, lines, tree⟩ :=
    stockImage.exists_finishedRun rfl rfl
  have carries : run.Carries := by
    rw [carries_iff_of_fiftyMhz stock lines, tree]
    exact readmeTree_carries
  exact ⟨run, before, packs, carries, (run.sound_iff.1 packs).mpr carries⟩

/-- A stock tree whose little table lists `opp15` in front of `opp14`. -/
def descendingTree : DeviceTree :=
  .node ⟨[], []⟩ [
    .node ⟨"opp_table0".toList, []⟩ [
      .node
        ⟨"opp15".toList,
          [⟨oppHz, bigEndian 8 1800000000⟩,
            ⟨oppMicrovolt, bigEndian 4 1006250⟩]⟩ [],
      .node
        ⟨"opp14".toList,
          [⟨oppHz, bigEndian 8 1700000000⟩,
            ⟨oppMicrovolt, bigEndian 4 981250⟩]⟩ []],
    .node ⟨"opp_table1".toList, []⟩ [
      .node
        ⟨"opp15".toList,
          [⟨oppHz, bigEndian 8 2000000000⟩,
            ⟨oppMicrovolt, bigEndian 4 1087500⟩]⟩ []]]

def descendingPatched : DeviceTree :=
  (applyStage readmeStock fiftyMhzVars descendingTree).getD descendingTree

theorem descendingPatched_applied :
    applyStage readmeStock fiftyMhzVars descendingTree =
      some descendingPatched := by
  have completes :
      (applyStage readmeStock fiftyMhzVars descendingTree).isSome := by
    decide +kernel
  obtain ⟨patched, applied⟩ := Option.isSome_iff_exists.mp completes
  rw [descendingPatched, applied, Option.getD_some]

/-- The SHA-256 digest of the salt `d00d` and its stock payload -/
def descendingStockDigest : Bytes :=
  [0x3f, 0x7a, 0xcd, 0xa0, 0x9b, 0xac, 0xb4, 0x30,
    0xd3, 0xa0, 0x4e, 0x05, 0x82, 0x67, 0xa2, 0xac,
    0xb0, 0xa7, 0xcc, 0x42, 0xd3, 0x38, 0xc7, 0x46,
    0x45, 0x10, 0x41, 0xec, 0xb4, 0xbb, 0x24, 0xf8]

/-- The SHA-256 digest of the salt `d00d` and its new payload -/
def descendingDigest : Bytes :=
  [0x3d, 0x80, 0xc0, 0xb2, 0x98, 0x30, 0x99, 0xd0,
    0x56, 0x2e, 0x52, 0x58, 0xbd, 0x4f, 0x52, 0xa0,
    0x68, 0x14, 0x87, 0x3b, 0x0b, 0x2e, 0x94, 0x10,
    0x92, 0xeb, 0xd8, 0x62, 0x7b, 0x82, 0xbe, 0x21]

/-- The stock image with that tree. -/
def descendingImage : ExampleImage :=
  { stockImage with
    tree := descendingTree
    patchedTree := descendingPatched
    accepted := by decide +kernel
    applied := descendingPatched_applied
    edited := by decide +kernel
    fits := by decide +kernel
    shown := by
      rintro (_ | _)
      · decide +kernel
      · decide +kernel
    stockDigest := descendingStockDigest
    stockLength := rfl
    unmatched := by decide +kernel
    digest := descendingDigest
    length := rfl }

/-- The little cluster of a descending table is reported with 1700 MHz. -/
theorem finishedRun_not_sound :
    ∃ run : FinishedRun,
      run.before = descendingImage.files ∧
        run.stockTree = descendingTree ∧ run.lines = fiftyMhzLines ∧
          ¬ run.Sound := by
  obtain ⟨run, before, packs, stock, lines, tree⟩ :=
    descendingImage.exists_finishedRun rfl rfl
  rw [show descendingImage.tree = descendingTree from rfl] at tree
  refine ⟨run, before, tree, lines, ?_⟩
  rw [FinishedRun.sound_of_packsPatched packs,
    carries_iff_of_fiftyMhz stock lines, tree]
  rintro ⟨-, -, shows⟩
  have listed :
      lastListed littleTable descendingTree = some "opp14".toList := by
    decide +kernel
  have shown : lastMhz littleTable descendingTree = some 1700 := by
    decide +kernel
  rcases shows .little with ⟨last, lastIs, found⟩ | ⟨mhz, mhzIs, isNew⟩
  · rw [Cluster.table, listed, Option.some.injEq] at lastIs
    subst lastIs
    exact absurd found (by decide +kernel)
  · rw [Cluster.table, shown, Option.some.injEq] at mhzIs
    subst mhzIs
    exact absurd isNew (by decide +kernel)

end OverclockBuilder
