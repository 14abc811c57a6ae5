import OverclockBuilder.ScriptRun

namespace OverclockBuilder

open RadixText BashText ShellFlow BytePacking CNumber LabelTree
open ArgumentParser FailFast

/-!
# What runs leave in `output/`

The image is copied into `output/` before it has a footer and before it is
verified.  On an input with which the commands from the copy on cannot fail, a
run succeeds or leaves every file alone; on others a failing run replaces the
image of its frequency.
-/

/-! ## Inputs that fit -/

/-- Sizes and metadata with which `add_hash_footer` cannot fail. -/
def TakesFooter (machine : Machine) (scan : Scan) : Prop :=
  ∃ originalSize imageSize,
    pyInt 10 scan.parameters.originalSize = some originalSize ∧
      pyInt 10 scan.parameters.imageSize = some imageSize ∧
        imageSize % blockSize = 0 ∧
          originalSize + maxMetadataSize ≤ imageSize ∧
            imageSize < 2 ^ 63 ∧
              ∀ payload : Bytes, payload.length = originalSize →
                ∃ blob,
                  machine.vbmetaBlob scan payload = some blob ∧
                    blob.length < 256 ^ 8

/-- An input with which the commands from the copy on cannot fail. -/
structure Suitable
    (machine : Machine)
    (input : Bytes)
    (scan : Scan) : Prop where
  /-- the image of `mkbootimg.py` does not end in a footer of its own -/
  image :
    ∃ (boot : VendorBoot) (image tail : Bytes),
      boot.arguments.writeVendorBoot = some image ∧
        input = image ++ tail ∧ footerOf image = none
  repackable : Repackable scan.info
  readable : Readable scan.info
  /-- nor can the device tree, at the end of the new one -/
  inPlace : EditedInPlace scan.blob
  names : NamesAvoid footerMagic footerSize scan.blob
  takesFooter : TakesFooter machine scan
  /-- the node listed last in each table has a frequency -/
  shown :
    ∃ tree,
      readBlob scan.blob = some tree ∧
        ∀ cluster : Cluster, (lastHex cluster.table tree).isSome = true

theorem Suitable.repacks
    {machine : Machine}
    {input : Bytes}
    {scan : Scan}
    (suitable : Suitable machine input scan) :
    Repacks input scan := by
  obtain ⟨boot, image, tail, written, isInput, -⟩ := suitable.image
  exact ⟨⟨boot, image, tail, written, isInput⟩, suitable.repackable,
    suitable.readable⟩

/--
The image is refused or suitable, and the system lets the commands from the copy
on finish.
-/
structure ScriptRun.Fit (run : ScriptRun) : Prop where
  magic : run.record.before.input.take 8 ≠ bootMagic
  suitable :
    ∀ scan ∈ run.machine.scan run.record.before.input,
      Suitable run.machine run.record.before.input scan
  serves :
    ∀ command ∈ publishCommands,
      run.record.surroundings.serves command = true

/-! ## From the copy on -/

section Packing

variable {machine : Machine} {input : Bytes} {scan : Scan}
  {record : RunRecord} {boot : VendorBoot}

/-- The payload of such an input has no footer. -/
theorem Packing.footerOf_payload
    (packing : Packing machine scan record)
    (scanned : machine.scan input = some scan)
    (suitable : Suitable machine input scan) :
    footerOf record.surroundings.payload = none := by
  obtain ⟨boot, image, tail, written, isInput, noFooter⟩ := suitable.image
  have contents := contents_of_written scanned written isInput
  have packed :=
    packing.payload_of_repacks scanned suitable.repacks contents
  obtain ⟨tree, holds, -⟩ := suitable.shown
  obtain ⟨editable, small⟩ := suitable.inPlace
  obtain ⟨fresh, applied⟩ := packing.edited suitable.inPlace
  have ends : footerMagic.getLast? = some 0x66 := rfl
  obtain ⟨names, ⟨head, isBlob⟩, long, absent⟩ :=
    applyStageFile_avoids holds editable small applied ends (by decide)
      suitable.names
  obtain ⟨front, count, isTable⟩ :=
    exists_rebuildTable_append packing.rebuilt
  rw [← isBlob, List.append_assoc, ← List.append_assoc front] at isTable
  exact footerOf_of_names written packed noFooter isTable long absent

/-- The footer of such an input takes the payload as it is. -/
theorem Packing.footed_eq
    (packing : Packing machine scan record)
    (served : record.surroundings.serves .addHashFooter = true)
    (takesFooter : TakesFooter machine scan)
    (plain : footerOf record.surroundings.payload = none)
    (long : sparseHeaderSize ≤ record.surroundings.payload.length) :
    record.surroundings.footed.succeeded = true ∧
      ∃ behind,
        record.surroundings.footed.image =
          record.surroundings.payload ++ behind := by
  obtain ⟨originalSize, imageSize, isOriginal, isImage, aligned, room,
    bounded, generates⟩ := takesFooter
  have partitionSize := packing.partitionSize served
  rw [isImage, Option.some.injEq] at partitionSize
  have length := packing.sameSize originalSize isOriginal (by omega)
  obtain ⟨blob, generated, short⟩ := generates _ length
  rw [← packing.vbmetaBlob] at generated
  have original :
      originalImage record.surroundings.payload =
        record.surroundings.payload := by
    rw [originalImage, plain]
  have fits :
      (newFooter record.surroundings.payload blob).fits = true := by
    have rounded :
        (padToBlock record.surroundings.payload).length ≤
          record.surroundings.payload.length + blockSize := by
      rw [padToBlock, List.length_append, List.length_replicate,
        roundToMultiple]
      split <;>
        omega
    simp only [blockSize] at rounded
    have size : record.surroundings.payload.length < 256 ^ 8 := by
      omega
    have offset :
        (padToBlock record.surroundings.payload).length < 256 ^ 8 := by
      omega
    rw [AvbFooter.fits, Bool.and_eq_true, Bool.and_eq_true]
    exact ⟨⟨decide_eq_true size, decide_eq_true offset⟩,
      decide_eq_true short⟩
  have succeeded : record.surroundings.footed.succeeded = true := by
    refine addHashFooter_of_room ?_ ?_ long plain ?_ generated fits
    · omega
    · rw [← partitionSize, aligned]
    · omega
  refine ⟨succeeded, ?_⟩
  obtain ⟨written, -, isFooted, keeps, -, -⟩ :=
    addHashFooter_succeeded succeeded
  rw [original] at isFooted keeps
  obtain ⟨behind, isAppend⟩ := exists_footedImage_append written keeps
  exact ⟨behind, isFooted.trans isAppend⟩

/-- The last stage finds the new table in front of the footer. -/
theorem Contents.verifiedDtb
    (contents : Contents machine input scan boot)
    {table payload : Bytes}
    (nonempty : 0 < table.length)
    (packed :
      { boot with dtb := table }.arguments.writeVendorBoot = some payload)
    (behind : Bytes) :
    (unpackVendorBootImage (pathJoin machine.work "verify".toList)
        (payload ++ behind)).isSome = true ∧
      machine.verifiedDtb (payload ++ behind) = some table := by
  have linkable :
      ∀ entry ∈ { boot with dtb := table }.table, Linkable entry :=
    contents.linkable
  have unpacked :=
    { boot with dtb := table }.unpackVendorBootImage_append packed behind
      (pathJoin machine.work "verify".toList)
  rw [if_pos linkable] at unpacked
  refine ⟨?_, ?_⟩
  · rw [unpacked]
    rfl
  · rw [Machine.verifiedDtb, unpacked, Option.bind_some,
      VendorBoot.lookup_files_dtb]
    exact if_pos nonempty

/-- The last stage accepts an image with a readable table. -/
theorem Machine.verifies_of_table
    {image table blob : Bytes}
    {tree : DeviceTree}
    (unpacked :
      (unpackVendorBootImage (pathJoin machine.work "verify".toList)
        image).isSome = true)
    (found : machine.verifiedDtb image = some table)
    (extracted : extractBlob table = some blob)
    (holds : readBlob blob = some tree)
    (shown :
      ∀ cluster : Cluster, (lastHex cluster.table tree).isSome = true) :
    ∀ command ∈ verifyCommands, machine.verifies image command = true := by
  have dumped : (dumpDtboImage table).isSome = true := by
    rw [extractBlob, Option.bind_eq_bind, Option.bind_eq_some_iff]
      at extracted
    obtain ⟨dtinfo, isDump, -⟩ := extracted
    rw [isDump]
    rfl
  have final : machine.finalBlob image = some blob := by
    rw [Machine.finalBlob, found, Option.bind_some, extracted]
  have listed :
      ∀ table ∈ [littleTable, bigTable],
        (lastHex table tree).isSome = true := by
    rw [List.forall_mem_cons, List.forall_mem_singleton]
    exact ⟨shown .little, shown .big⟩
  have printed
      {table : Text}
      (member : table ∈ [littleTable, bigTable]) :
      machine.verifies image (.readFinal table) = true := by
    rw [Machine.verifies, final, Option.bind_some,
      finalLoopFile_of_readBlob holds]
    apply isSome_finalLoop
    intro other inTables
    rcases List.mem_append.mp inTables with front | here
    · exact listed other (List.takeWhile_subset _ front)
    · rw [List.mem_singleton.mp here]
      exact listed table member
  intro command member
  simp only [verifyCommands, List.mem_cons, List.not_mem_nil, or_false]
    at member
  rcases member with rfl | rfl | rfl | rfl | rfl | rfl | rfl | rfl
  · rfl
  · exact unpacked
  · rw [Machine.verifies, found]
    exact dumped
  · rfl
  · rw [Machine.verifies, final]
    rfl
  · exact printed List.mem_cons_self
  · exact printed (List.mem_cons_of_mem _ List.mem_cons_self)
  · rfl

/-- On a suitable input nothing from the copy on can fail. -/
theorem Packing.fits
    (packing : Packing machine scan record)
    (verifies : record.surroundings.verifies = machine.verifies)
    (scanned : machine.scan input = some scan)
    (suitable : Suitable machine input scan)
    (serves :
      ∀ command ∈ publishCommands,
        record.surroundings.serves command = true) :
    record.surroundings.Fits := by
  have repacks := suitable.repacks
  have plain := packing.footerOf_payload scanned suitable
  obtain ⟨tree, holds, shown⟩ := suitable.shown
  obtain ⟨boot, contents⟩ := exists_contents_of_repacks scanned repacks
  have packed := packing.payload_of_repacks scanned repacks contents
  obtain ⟨extracted, nonempty⟩ := extractBlob_rebuildTable packing.rebuilt
  obtain ⟨patchedTree, applied, patched⟩ := packing.patched tree holds
  obtain ⟨succeeded, behind, isImage⟩ :=
    packing.footed_eq (serves _ (by decide)) suitable.takesFooter plain
      (sparseHeaderSize_le_length packed)
  obtain ⟨unpacked, found⟩ := contents.verifiedDtb nonempty packed behind
  refine ⟨serves, succeeded, ?_⟩
  rw [verifies, isImage]
  exact Machine.verifies_of_table unpacked found extracted patched
    fun cluster => isSome_lastHex_applyStage applied (shown cluster)

end Packing

/-! ## Histories -/

/-- A run on an input that fits succeeds or leaves every file alone. -/
theorem ScriptRun.intact
    {run : ScriptRun}
    (fit : run.Fit) :
    run.record.Intact := by
  cases scanned : run.machine.scan run.record.before.input with
  | none =>
      obtain ⟨command, -, prepare⟩ := run.refused fit.magic scanned
      have unchanged := runs_inWork prepareCommands_inWork prepare
      refine ⟨?_, fun _ => unchanged⟩
      rw [unchanged]
      exact Reopened.refl _ _
  | some scan =>
      have suitable := fit.suitable scan scanned
      have opened : run.record.surroundings.opened = [] :=
        (run.opened scan scanned).trans
          (opened_of_repacks scanned suitable.repacks).1
      refine ⟨?_, ?_⟩
      · have frame := builderRun_reopened run.record.run
        rw [opened] at frame
        exact frame
      · intro failed
        have early : run.record.ending.reachesCopy = false := by
          by_contra reaches
          rw [Bool.not_eq_false] at reaches
          obtain ⟨packing⟩ := run.packs scan scanned reaches
          exact failed (builderRun_of_fits run.record.run reaches
            (packing.fits run.verifies scanned suitable fit.serves))
        have unchanged := builderRun_early run.record.run early
        rw [opened] at unchanged
        exact unchanged.eq_of_nil

/--
In a history whose runs all fit, no failing run changes any file,
`vendor_boot.img` never changes, and every image in `output/` was there at the
start or is the complete image of a run that succeeded.
-/
theorem history_outputIntact
    {initial final : Files}
    {runs : List ScriptRun}
    (history : History initial final (runs.map ScriptRun.record))
    (fit : ∀ run ∈ runs, run.Fit) :
    (∀ run ∈ runs,
        run.record.ending ≠ .success →
          run.record.after = run.record.before) ∧
      final.input = initial.input ∧
        ∀ name image, final.output name = some image →
          initial.output name = some image ∨
            ∃ run ∈ runs,
              run.record.ending = .success ∧
                run.record.outputName = name ∧
                  run.record.Complete image := by
  have intact : ∀ record ∈ runs.map ScriptRun.record, record.Intact := by
    intro record member
    obtain ⟨run, inRuns, rfl⟩ := List.mem_map.mp member
    exact ScriptRun.intact (fit run inRuns)
  obtain ⟨input, images⟩ := history_complete history intact
  refine ⟨?_, input, ?_⟩
  · intro run member failed
    exact (ScriptRun.intact (fit run member)).unchanged failed
  · intro name image here
    rcases images name image here with fromStart | ⟨record, member, made⟩
    · exact .inl fromStart
    · obtain ⟨run, inRuns, rfl⟩ := List.mem_map.mp member
      exact .inr ⟨run, inRuns, made⟩

/-! ## Runs on the example image -/

namespace ExampleImage

variable (image : ExampleImage)

/-- What a run in which the system does its part makes of it. -/
def surroundings : Surroundings where
  payload := image.payloadOf image.patchedTree
  partitionSize := image.partitionSize
  vbmetaBlob := image.machine.vbmetaBlob image.scan
  opened := image.machine.opened image.scan.info
  serves := fun _ => true
  verifies := image.machine.verifies

theorem surroundings_opened :
    image.surroundings.opened = image.machine.opened image.scan.info := by
  simp only [surroundings]

theorem surroundings_serves (command : Command) :
    image.surroundings.serves command = true := by
  simp only [surroundings]

/-- The stock image, and nothing in `output/`. -/
def files : Files where
  input := image.input
  output := fun _ => none

/-- The files that `mkbootimg.py` is given. -/
def disk (path : Text) : Option Bytes :=
  if path = dtbOc image.machine.work then
    some (tableOf image.patchedTree)
  else if path = "/tmp/tmp.a/unpack/dtb".toList then
    some (tableOf image.tree)
  else
    some []

theorem holds_disk :
    Holds image.disk (pathJoin image.machine.work "unpack".toList)
      image.scan.files := by
  obtain ⟨-, nonempty, -, -⟩ := tableOf_spec image.tree_mem
  have isFiles :
      image.scan.files =
        [("vendor_ramdisk".toList, []),
          ("dtb".toList, tableOf image.tree)] := by
    have plain : ¬ 3 < (image.bootOf image.tree).headerVersion :=
      Nat.lt_irrefl 3
    have dtb : (image.bootOf image.tree).dtb = tableOf image.tree := rfl
    rw [scan, VendorBoot.files, if_neg plain, dtb, if_pos nonempty]
    rfl
  have ramdisk :
      "/tmp/tmp.a/unpack/vendor_ramdisk".toList ≠ dtbOc image.machine.work :=
    show _ ≠ dtbOc "/tmp/tmp.a".toList by decide
  have notDtb :
      "/tmp/tmp.a/unpack/vendor_ramdisk".toList ≠
        "/tmp/tmp.a/unpack/dtb".toList := by
    decide
  have dtb :
      "/tmp/tmp.a/unpack/dtb".toList ≠ dtbOc image.machine.work :=
    show _ ≠ dtbOc "/tmp/tmp.a".toList by decide
  rw [isFiles, Holds, List.forall_mem_cons, List.forall_mem_singleton]
  exact ⟨(if_neg ramdisk).trans (if_neg notDtb),
    (if_neg dtb).trans (if_pos rfl)⟩

/-- A command line that the script passes on as it is. -/
structure Plain (image : ExampleImage) : Prop where
  repackable : Repackable image.scan.info
  readable : Readable image.scan.info

variable {image}

theorem Plain.repacks (plain : image.Plain) :
    Repacks image.input image.scan :=
  ⟨⟨_, image.contents_input.written⟩, plain.repackable, plain.readable⟩

section Run

variable {before after : Files} {ending : Ending}

/-- A run with 50 MHz on the image. -/
def record
    (run :
      BuilderRun image.surroundings readmeStock fiftyMhzLines before after
        ending) :
    RunRecord where
  surroundings := image.surroundings
  stock := readmeStock
  lines := fiftyMhzLines
  before := before
  after := after
  ending := ending
  run := run

theorem vars_record
    (run :
      BuilderRun image.surroundings readmeStock fiftyMhzLines before after
        ending) :
    (record run).vars = fiftyMhzVars := by
  simp only [RunRecord.vars, record, fiftyMhzVars]

/-- It packs the new table. -/
theorem Plain.packing
    (plain : image.Plain)
    (run :
      BuilderRun image.surroundings readmeStock fiftyMhzLines before after
        ending) :
    Nonempty (Packing image.machine image.scan (record run)) := by
  obtain ⟨created, -, -, -⟩ := tableOf_spec image.tree_mem
  obtain ⟨patchedCreated, -, -, -⟩ := tableOf_spec image.patchedTree_mem
  obtain ⟨packed, length, -⟩ := payloadOf_spec image.patchedTree_mem
  have stored := readBlob_exampleBlob image.tree_mem
  have readable := plain.readable
  refine ⟨⟨exampleBlob image.patchedTree, ?_, ?_,
    tableOf image.patchedTree,
    (rebuildTable_of_created created _).trans patchedCreated, image.disk,
    if_pos rfl, image.holds_disk, ?_, ?_, ?_, rfl⟩⟩
  · intro tree read
    have isTree : image.tree = tree :=
      Option.some.inj (stored.symm.trans read)
    subst isTree
    refine ⟨image.patchedTree, ?_,
      readBlob_exampleBlob image.patchedTree_mem⟩
    rw [vars_record, record]
    exact image.applied
  · intro _
    refine ⟨fun _ _ => 0, ?_⟩
    rw [vars_record, record]
    exact image.edited
  · intro _
    have isDtbOc : IsValue bootOptions (dtbOc image.machine.work) :=
      image.machine.isValue_work "dtb_oc".toList
    have nonempty := image.contents_input.nonempty
    have remade :=
      VendorBoot.mkbootimg_argumentsWithDtb readable image.holds_disk
        isDtbOc
        (image.machine.isValue_work "vendor_boot_payload.img".toList)
        (fun _ => show image.disk _ = _ from if_pos rfl)
        (fun absent => absurd nonempty (by simp [absent]))
    have isNew :
        { (image.bootOf image.tree).arguments with
            dtb := tableOf image.patchedTree } =
          (image.bootOf image.patchedTree).arguments :=
      exampleBoot_arguments_dtb image.cmdlineFits (tableOf image.tree)
        (tableOf image.patchedTree)
    rw [image.contents_input.bootWords_eq plain.repackable, remade, isNew,
      packed]
    simp only [record, surroundings]
  · intro size isSize _
    rw [scan, pyInt_printUnsigned, Option.some.injEq] at isSize
    simp only [record, surroundings, length, isSize]
  · intro _
    simp only [scan, record, surroundings, pyInt_printUnsigned]

theorem eq_scan
    {other : Scan}
    {input : Bytes}
    (same : input = image.input)
    (scanned : other ∈ image.machine.scan input) :
    other = image.scan := by
  rw [same, image.scan_input, Option.mem_def, Option.some.injEq] at scanned
  exact scanned.symm

/-- Such a run is a run on a machine. -/
def scriptRun
    (isInput : before.input = image.input)
    (run :
      BuilderRun image.surroundings readmeStock fiftyMhzLines before after
        ending)
    (plain : ending.reachesCopy = true → image.Plain) :
    ScriptRun where
  machine := image.machine
  record := record run
  verifies := rfl
  refused := by
    intro _ refused
    have scanned := image.scan_input
    simp only [record, isInput, scanned, reduceCtorEq] at refused
  stock := by
    intro other scanned
    rw [eq_scan isInput scanned]
    simp only [record, scan]
  opened := by
    intro other scanned
    rw [eq_scan isInput scanned]
    simp only [record, surroundings]
  packs := by
    intro other scanned reaches
    rw [eq_scan isInput scanned]
    exact (plain reaches).packing run

end Run

/-- It is no boot image. -/
theorem take_input_ne_bootMagic : image.input.take 8 ≠ bootMagic := by
  obtain ⟨packed, -, -⟩ := payloadOf_spec image.tree_mem
  obtain ⟨behind, isInput⟩ := image.exists_input_append
  rw [isInput, take_of_writeVendorBoot packed behind]
  decide

/-- In a partition of whole blocks nothing from the copy on can fail. -/
theorem Plain.suitable
    (plain : image.Plain)
    (aligned : image.partitionSize % blockSize = 0) :
    Suitable image.machine image.input image.scan := by
  have large := image.large
  obtain ⟨packed, -, noFooter⟩ := payloadOf_spec image.tree_mem
  obtain ⟨behind, isInput⟩ := image.exists_input_append
  obtain ⟨inPlace, names⟩ := editedInPlace_exampleBlob image.tree_mem
  refine ⟨⟨_, _, behind, packed, isInput, noFooter⟩, plain.repackable,
    plain.readable, inPlace, names, ⟨6144, image.partitionSize,
    pyInt_printUnsigned 6144, pyInt_printUnsigned _, aligned, ?_,
    image.bounded, ?_⟩, ⟨image.tree, readBlob_exampleBlob image.tree_mem,
    image.shown⟩⟩
  · rw [maxMetadataSize]
    omega
  · intro payload size
    obtain ⟨blob, generated, length⟩ := image.vbmetaBlob_input size
    refine ⟨blob, generated, ?_⟩
    rw [length]
    decide

/-- A run that fails at once. -/
theorem failedRun (files : Files) :
    BuilderRun image.surroundings readmeStock fiftyMhzLines files files
      (.stopped .mktemp) :=
  .unprepared (.stopped _ (.inWork rfl (by decide) .failure _))

theorem Plain.fits
    (plain : image.Plain)
    (aligned : image.partitionSize % blockSize = 0) :
    image.surroundings.Fits := by
  obtain ⟨packing⟩ := plain.packing (failedRun image.files)
  exact packing.fits rfl image.scan_input (plain.suitable aligned)
    fun command _ => image.surroundings_serves command

/-- A run that succeeds. -/
theorem Plain.successRun
    (plain : image.Plain)
    (aligned : image.partitionSize % blockSize = 0)
    (files : Files) :
    BuilderRun image.surroundings readmeStock fiftyMhzLines files
      (publishedFiles (runOutputName readmeStock fiftyMhzLines)
        image.surroundings files)
      .success :=
  builderRun_of_publish fiftyMhzLines_built none
    (publish_runs (plain.fits aligned) _)

/-- Runs on such an image fit. -/
theorem Plain.fit
    (plain : image.Plain)
    (aligned : image.partitionSize % blockSize = 0)
    {before after : Files}
    {ending : Ending}
    (isInput : before.input = image.input)
    (run :
      BuilderRun image.surroundings readmeStock fiftyMhzLines before after
        ending) :
    (scriptRun isInput run fun _ => plain).Fit where
  magic := by
    show before.input.take 8 ≠ bootMagic
    rw [isInput]
    exact image.take_input_ne_bootMagic
  suitable := by
    intro other scanned
    rw [eq_scan isInput scanned]
    show Suitable image.machine before.input image.scan
    rw [isInput]
    exact plain.suitable aligned
  serves := fun command _ => image.surroundings_serves command

end ExampleImage

/-! ## Two histories -/

/-- The command line of the example images -/
def exampleCmdline : Text :=
  "bootopt=64S3,32N2,64N2".toList

theorem ExampleImage.plain_of_cmdline
    {image : ExampleImage}
    (isCmdline : image.cmdline = exampleCmdline) :
    image.Plain := by
  have cmdline :
      ArgumentText.Plain exampleCmdline ∧ ¬ EndsInDtb exampleCmdline ∧
        IsValue bootOptions exampleCmdline :=
    ⟨by decide +kernel, by decide +kernel, isValue_of_head (by decide)⟩
  have productName :
      ArgumentText.Plain "mt6768".toList ∧ ¬ EndsInDtb "mt6768".toList ∧
        IsValue bootOptions "mt6768".toList :=
    ⟨by decide +kernel, by decide +kernel, isValue_of_head (by decide)⟩
  have imageDir : "/tmp/tmp.a/unpack".toList.head? ≠ some '-' := by
    decide
  have noEntry : image.scan.info.vendorRamdiskTable = [] := rfl
  rw [← isCmdline] at cmdline
  refine ⟨⟨cmdline.1, productName.1, cmdline.2.1, productName.2.1, ?_⟩,
    ⟨imageDir, cmdline.2.2, productName.2.2, ?_⟩⟩
  · rw [noEntry]
    exact fun _ entry inTable => (List.not_mem_nil inTable).elim
  · rw [noEntry]
    exact fun entry inTable => (List.not_mem_nil inTable).elim

/-- The README's tree, patched. -/
def readmePatched : DeviceTree :=
  (applyStage readmeStock fiftyMhzVars readmeTree).getD readmeTree

theorem readmePatched_applied :
    applyStage readmeStock fiftyMhzVars readmeTree = some readmePatched := by
  have completes :
      (applyStage readmeStock fiftyMhzVars readmeTree).isSome := by
    decide +kernel
  obtain ⟨patched, applied⟩ := Option.isSome_iff_exists.mp completes
  rw [readmePatched, applied, Option.getD_some]

/-- The SHA-256 digest of the salt `d00d` and the stock payload -/
def readmeStockDigest : Bytes :=
  [0x9f, 0xf4, 0x86, 0x35, 0x4f, 0x09, 0xda, 0x60,
    0x3c, 0xe8, 0xeb, 0x1a, 0x4c, 0x3f, 0x4f, 0x0d,
    0x5f, 0xaf, 0x48, 0x86, 0x95, 0x28, 0x60, 0xfc,
    0xa6, 0x57, 0x46, 0x47, 0xed, 0x35, 0x5a, 0x12]

/-- The SHA-256 digest of the salt `d00d` and the new payload -/
def readmeDigest : Bytes :=
  [0xd9, 0xb6, 0x40, 0x0d, 0xe5, 0x56, 0x9f, 0xa6,
    0x5d, 0xb4, 0x70, 0x5f, 0x2d, 0x69, 0x03, 0x32,
    0xc8, 0xaf, 0x9b, 0xba, 0xb7, 0x1a, 0xb1, 0xe0,
    0xe8, 0x28, 0xff, 0xd7, 0x58, 0x93, 0xa8, 0x6f]

/-- An image with the README's tree, in a partition of the given size. -/
def readmeImage
    (partitionSize : Nat)
    (large : 131072 ≤ partitionSize)
    (bounded : partitionSize < 2 ^ 63) :
    ExampleImage where
  tree := readmeTree
  patchedTree := readmePatched
  accepted := by decide +kernel
  applied := readmePatched_applied
  edited := by decide +kernel
  fits := by decide +kernel
  shown := by
    rintro (_ | _)
    · decide +kernel
    · decide +kernel
  cmdline := exampleCmdline
  cmdlineFits := by decide
  partitionSize := partitionSize
  large := large
  bounded := bounded
  stockDigest := readmeStockDigest
  stockLength := rfl
  unmatched := by decide +kernel
  digest := readmeDigest
  length := rfl

/-- The image in a partition of 128 KiB. -/
def stockImage : ExampleImage :=
  readmeImage 131072 (by decide) (by decide)

theorem stockImage_plain : stockImage.Plain :=
  ExampleImage.plain_of_cmdline rfl

/-- A run that fails at once. -/
def failedScriptRun : ScriptRun :=
  ExampleImage.scriptRun rfl (ExampleImage.failedRun stockImage.files)
    fun _ => stockImage_plain

/-- A run that succeeds. -/
def succeededScriptRun : ScriptRun :=
  ExampleImage.scriptRun rfl
    (stockImage_plain.successRun rfl stockImage.files)
    fun _ => stockImage_plain

theorem history_outputIntact_twoRuns :
    (∀ run ∈ [succeededScriptRun, failedScriptRun],
        run.record.ending ≠ .success →
          run.record.after = run.record.before) ∧
      succeededScriptRun.record.after.input = stockImage.files.input ∧
        ∀ name image,
          succeededScriptRun.record.after.output name = some image →
            stockImage.files.output name = some image ∨
              ∃ run ∈ [succeededScriptRun, failedScriptRun],
                run.record.ending = .success ∧
                  run.record.outputName = name ∧
                    run.record.Complete image := by
  have history :
      History stockImage.files succeededScriptRun.record.after
        ([succeededScriptRun, failedScriptRun].map ScriptRun.record) :=
    .next (.next .start failedScriptRun.record rfl)
      succeededScriptRun.record rfl
  refine history_outputIntact history ?_
  rw [List.forall_mem_cons, List.forall_mem_singleton]
  exact ⟨stockImage_plain.fit rfl rfl _, stockImage_plain.fit rfl rfl _⟩

/--
With a partition size that is no multiple of 4096 the footer fails, and the
payload without a footer has replaced the image that was there.
-/
theorem footerFailure_replacesImage :
    ∃ run : ScriptRun,
      run.record.before.input =
          (readmeImage 131584 (by decide) (by decide)).input ∧
        run.record.ending = .stopped .addHashFooter ∧
          run.record.before.output run.record.outputName = some [0x01] ∧
            run.record.after.output run.record.outputName =
                some run.record.surroundings.payload ∧
              run.record.surroundings.payload.length = 6144 ∧
                footerOf run.record.surroundings.payload = none := by
  let image := readmeImage 131584 (by decide) (by decide)
  let name := runOutputName readmeStock fiftyMhzLines
  let before := image.files.write name [0x01]
  obtain ⟨-, length, plain⟩ :=
    ExampleImage.payloadOf_spec image.patchedTree_mem
  have rolledBack :
      image.surroundings.footed =
        ⟨image.surroundings.payload, false⟩ :=
    addHashFooter_of_unaligned plain (by decide)
  have run :
      BuilderRun image.surroundings readmeStock fiftyMhzLines before
        (publishedFiles name image.surroundings before)
        (.stopped .addHashFooter) :=
    builderRun_of_publish fiftyMhzLines_built (some .addHashFooter)
      (.continued (.copied rfl before)
        (.stopped _ (.rolledBack (Files.output_write _ _ before)
          (congrArg FooterResult.succeeded rolledBack))))
  refine ⟨ExampleImage.scriptRun rfl run fun _ =>
    ExampleImage.plain_of_cmdline rfl, rfl, rfl,
    Files.output_write name _ _, ?_, length, plain⟩
  refine (output_publishedFiles before).trans ?_
  rw [rolledBack]
  rfl

/-- A command line with an option of `mkbootimg.py` -/
def outputOption : Text :=
  "console=ttyS0 -o vendor_boot.img x".toList

/-- The SHA-256 digest of the salt `d00d` and the payload with that line -/
def outputOptionDigest : Bytes :=
  [0xf2, 0xd2, 0x62, 0xbb, 0xb3, 0xf9, 0xa8, 0x84,
    0x63, 0xc2, 0x7d, 0x25, 0x89, 0xef, 0xbf, 0x89,
    0x44, 0x0a, 0xdf, 0x5a, 0xf5, 0x2c, 0xe3, 0xe9,
    0x88, 0xc4, 0xe2, 0x1c, 0x1d, 0x61, 0x06, 0x4d]

/-- The stock image with that line. -/
def outputOptionImage : ExampleImage :=
  { stockImage with
    cmdline := outputOption
    cmdlineFits := by decide
    stockDigest := outputOptionDigest
    stockLength := rfl
    unmatched := by decide +kernel }

/-- `mkbootimg.py` empties `vendor_boot.img` and fails. -/
theorem outputOption_emptiesInput :
    ∃ run : ScriptRun,
      run.record.before.input = outputOptionImage.input ∧
        run.record.ending = .stopped .mkbootimg ∧
          run.record.after.input = [] := by
  let image := outputOptionImage
  let before := image.files
  let after : Files := { before with input := [] }
  have opens : .input ∈ image.surroundings.opened := by
    rw [ExampleImage.surroundings_opened]
    decide +kernel
  have reopened : Reopened image.surroundings.opened before after := by
    refine ⟨?_, fun _ _ => rfl⟩
    intro closed
    exact (closed opens).elim
  have isScript :
      buildCommands readmeStock fiftyMhzVars =
        (packCommands readmeStock fiftyMhzVars).dropLast.dropLast.dropLast ++
          .mkbootimg :: .statPayload :: .checkPayloadSize ::
            publishCommands := by
    decide +kernel
  have early :
      ∀ command ∈
          (packCommands readmeStock
            fiftyMhzVars).dropLast.dropLast.dropLast,
        command ∉ publishCommands := by
    decide +kernel
  have run :
      BuilderRun image.surroundings readmeStock fiftyMhzLines before after
        (.ofOutcome (some .mkbootimg)) := by
    refine .built (early_runs prepareCommands_early before)
      fiftyMhzLines_built ?_
    rw [← fiftyMhzVars, isScript]
    exact (early_runs early before).append
      (.stopped _ (.packed .failure reopened))
  refine ⟨ExampleImage.scriptRun rfl run ?_, rfl, rfl, rfl⟩
  intro reaches
  exact absurd reaches (by decide)

end OverclockBuilder
