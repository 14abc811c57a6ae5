import OverclockBuilder.FdtPut
import OverclockBuilder.FinalVerification
import OverclockBuilder.PackedTable

namespace OverclockBuilder

open RadixText WordText BytePacking CNumber BashText LabelTree

/-!
# The device tree stages on bytes

The stages of the script around `mt6768_oc.dtb` run their tools on files.  On a
blob that holds a tree they do what the stages do on the tree, up to the blob
that is cut out of the finished table.
-/

/-! ## The stages as the script runs them -/

/-- The loop over both tables, on a file. -/
def tablesPresentFile (blob : Bytes) : Bool :=
  (fdtgetListFile littleTable blob).isSome &&
    (fdtgetListFile bigTable blob).isSome

/-- `fdtget -t x file PATH opp-hz | awk '{print $2}'` -/
def hzHexFile (table : Text) (blob : Bytes) : Option Text :=
  (fdtgetFile .x (nodePath table) oppHz blob).map (awkField 2)

/-- `fdtget -t u file PATH opp-microvolt` -/
def microvoltFile (table : Text) (blob : Bytes) : Option Text :=
  fdtgetFile .u (nodePath table) oppMicrovolt blob

/-- The script from the table check to `LITTLE_HZ` and `BIG_HZ`, on a file. -/
def readStockFile (blob : Bytes) : Option Stock := do
  guard (tablesPresentFile blob)
  let littleHzHex ← hzHexFile littleTable blob
  let bigHzHex ← hzHexFile bigTable blob
  let littleVoltageStock ← microvoltFile littleTable blob
  let bigVoltageStock ← microvoltFile bigTable blob
  guard (littleHzHex ≠ [] ∧ bigHzHex ≠ [])
  guard (littleVoltageStock ≠ [] ∧ bigVoltageStock ≠ [])
  let littleHz ← strlongHex littleHzHex
  let bigHz ← strlongHex bigHzHex
  return { littleHz, bigHz, littleVoltageStock, bigVoltageStock }

/-- One `TERAPKAN PERUBAHAN KE DTB` block, on a file. -/
def applyPassFile
    (fresh : Nat → Nat → UInt8)
    (stock : Stock)
    (vars : Vars)
    (blob : Bytes) :
    Option Bytes :=
  if tablesPresentFile blob then
    runCallsFile fresh (applyCalls stock vars) blob
  else
    none

/-- The script has the block twice; `fresh` counts the calls through both. -/
def applyStageFile
    (fresh : Nat → Nat → UInt8)
    (stock : Stock)
    (vars : Vars)
    (blob : Bytes) :
    Option Bytes :=
  let calls := (applyCalls stock vars).length
  (applyPassFile fresh stock vars blob).bind
    (applyPassFile (fun later => fresh (calls + later)) stock vars)

/-- `HEX` of the final verification, on a file. -/
def lastHexFile (table : Text) (blob : Bytes) : Option Text :=
  ((fdtgetListFile table blob).map tailLine).bind fun last =>
    (fdtgetFile .x (listedPath table last) oppHz blob).map (awkField 2)

/-- The loop under `Frekuensi maksimum akhir`, on a file. -/
def finalLoopFile : List Text → Bytes → Option (List (Text × Intmax))
  | [], _ =>
      some []
  | table :: rest, blob =>
      (lastHexFile table blob).bind fun hex =>
        if hex = [] then
          some []
        else
          (strlongHex hex).bind fun hz =>
            (finalLoopFile rest blob).map ((table, hz / 1000000) :: ·)

/-! ## Reading -/

section Reading

variable {blob : Bytes} {tree : DeviceTree}

theorem tablesPresentFile_of_readBlob (holds : readBlob blob = some tree) :
    tablesPresentFile blob = tablesPresent tree := by
  rw [tablesPresentFile, tablesPresent, fdtgetListFile_of_readBlob holds,
    fdtgetListFile_of_readBlob holds]

theorem readStockFile_of_readBlob (holds : readBlob blob = some tree) :
    readStockFile blob = readStock tree := by
  simp only [readStockFile, readStock, hzHexFile, hzHex, microvoltFile,
    microvolt, tablesPresentFile_of_readBlob holds,
    fdtgetFile_of_readBlob holds]

theorem finalLoopFile_of_readBlob
    (holds : readBlob blob = some tree)
    (tables : List Text) :
    finalLoopFile tables blob = finalLoop tables tree := by
  induction tables with
  | nil =>
      rfl
  | cons table rest inductionHypothesis =>
      have hex : lastHexFile table blob = lastHex table tree := by
        simp only [lastHexFile, lastHex, lastListed,
          fdtgetListFile_of_readBlob holds, fdtgetFile_of_readBlob holds]
      simp only [finalLoopFile, finalLoop, hex, inductionHypothesis]

end Reading

/-! ## One call -/

/-- Every argument is stored as one cell, and read back modulo 2^32. -/
theorem cells_encodeValue
    {format : Format}
    {arguments : List Text}
    {value : Bytes}
    (encoded : encodeValue format arguments = some value) :
    ∃ numbers,
      arguments.mapM (strtoul format.base) = some numbers ∧
        cells value = numbers.map (· % 4294967296) := by
  suffices packed :
      ∃ numbers,
        arguments.mapM (strtoul format.base) = some numbers ∧
          value = packWords numbers by
    obtain ⟨numbers, parsed, rfl⟩ := packed
    exact ⟨numbers, parsed, cells_packWords numbers⟩
  induction arguments generalizing value with
  | nil =>
      cases encoded
      exact ⟨[], rfl, rfl⟩
  | cons argument rest inductionHypothesis =>
      simp only [encodeValue, List.mapM_cons, encodeCell, Option.bind_eq_bind,
        Option.map_eq_some_iff, Option.bind_eq_some_iff, Option.pure_def,
        Option.some.injEq] at encoded
      obtain ⟨_, ⟨_, ⟨number, parsed, rfl⟩, cells, later, rfl⟩, rfl⟩ :=
        encoded
      have encodedRest : encodeValue format rest = some cells.flatten := by
        rw [encodeValue, later]
        rfl
      obtain ⟨numbers, parsedRest, packed⟩ := inductionHypothesis encodedRest
      refine ⟨number :: numbers, ?_, ?_⟩
      · rw [List.mapM_cons, parsed, parsedRest]
        rfl
      · rw [List.flatten_cons, packed]
        rfl

/--
What `fdtput` stored in a file `fdtget` prints, in either format, as the numbers
of the arguments modulo 2^32.  Every other property of the file is printed as
before, and so is every list of subnodes, along every path from the root.
-/
theorem fdtgetFile_fdtputFile
    {blob : Bytes}
    {tree : DeviceTree}
    (holds : readBlob blob = some tree)
    (editable : Editable blob)
    {call : FdtputCall}
    (plain : call.Plain)
    (small : blob.length + call.growth < 2 ^ 31 - 1)
    {fresh : Nat → UInt8}
    {written : Bytes}
    (stored : fdtputFile fresh call blob = some written) :
    (∃ numbers,
      call.arguments.mapM (strtoul call.format.base) = some numbers ∧
        ∀ format,
          fdtgetFile format call.path call.property written =
            some ([' '].intercalate
              (numbers.map fun number =>
                format.print (number % 4294967296)))) ∧
      (∀ format path property,
        IsAbsolute path →
          IsOperand property →
            pathOffset path tree ≠ pathOffset call.path tree ∨
                property ≠ call.property →
              fdtgetFile format path property written =
                fdtgetFile format path property blob) ∧
        ∀ path,
          IsAbsolute path →
            fdtgetListFile path written = fdtgetListFile path blob := by
  rcases fdtputFile_step holds editable plain.isName small fresh with
    ⟨-, failed⟩ | ⟨after, other, run, runFile, holdsAfter, -, -, -⟩
  · rw [failed] at stored
    cases stored
  · rw [runFile, Option.some.injEq] at stored
    subst stored
    refine ⟨?_, ?_, ?_⟩
    · obtain ⟨value, -, encoded, -, -⟩ := call.run_eq_some run
      obtain ⟨numbers, parsed, shown⟩ := cells_encodeValue encoded
      refine ⟨numbers, parsed, fun format => ?_⟩
      rw [fdtgetFile_of_readBlob holdsAfter, fdtget,
        call.propertyAt_run_self run, encoded, Option.map_some, showData,
        shown, List.map_map]
      rfl
    · intro format path property _ _ different
      rw [fdtgetFile_of_readBlob holdsAfter, fdtgetFile_of_readBlob holds,
        fdtget, fdtget, call.propertyAt_run_of_ne run different]
    · intro path _
      rw [fdtgetListFile_of_readBlob holdsAfter,
        fdtgetListFile_of_readBlob holds, fdtgetList_run run]

theorem fdtgetFile_fdtputFile_example :
    ∃ written,
      fdtputFile (fun _ => 255)
            (putMicrovolt littleTable "0x1000F6950".toList)
            (exampleBlob readmeTree) =
          some written ∧
        fdtgetFile .u (nodePath littleTable) oppMicrovolt written =
            some "1010000".toList ∧
          fdtgetFile .u (nodePath bigTable) oppMicrovolt written =
            some "1087500".toList := by
  have holds : readBlob (exampleBlob readmeTree) = some readmeTree :=
    readBlob_writeBlob (by decide +kernel) (by decide +kernel)
  have editable : Editable (exampleBlob readmeTree) :=
    editable_assembleBlob (by decide +kernel)
  have completes :
      (fdtputFile (fun _ => 255)
        (putMicrovolt littleTable "0x1000F6950".toList)
        (exampleBlob readmeTree)).isSome := by
    decide +kernel
  obtain ⟨written, stored⟩ := Option.isSome_iff_exists.mp completes
  obtain ⟨⟨numbers, parsed, printed⟩, others, -⟩ :=
    fdtgetFile_fdtputFile holds editable
      ⟨by decide, by decide, by decide⟩ (by decide +kernel) stored
  have isNumber :
      ["0x1000F6950".toList].mapM (strtoul 0) = some [4295977296] := by
    decide +kernel
  cases isNumber.symm.trans parsed
  refine ⟨written, stored, ?_, ?_⟩
  · rw [show oppMicrovolt =
      (putMicrovolt littleTable "0x1000F6950".toList).property from rfl]
    exact (printed .u).trans (by decide +kernel)
  · rw [others .u (nodePath bigTable) oppMicrovolt (by decide) (by decide)
      (.inl (by decide +kernel))]
    decide +kernel

/-! ## Writing -/

/-- The properties that the script sets. -/
theorem property_applyCalls
    {stock : Stock}
    {vars : Vars}
    {call : FdtputCall}
    (member : call ∈ applyCalls stock vars) :
    call.property = oppHz ∨ call.property = oppMicrovolt := by
  obtain ⟨cluster, rfl | ⟨-, rfl⟩⟩ :=
    (mem_applyCalls stock vars).mp member
  · exact .inl rfl
  · exact .inr rfl

/-- They have plain names. -/
theorem isByteName_applyCalls
    {stock : Stock}
    {vars : Vars}
    {call : FdtputCall}
    (member : call ∈ applyCalls stock vars) :
    IsByteName call.property := by
  rcases property_applyCalls member with isHz | isMicrovolt
  · rw [isHz]
    decide
  · rw [isMicrovolt]
    decide

/-- One block adds little to a file. -/
theorem growth_applyCalls (stock : Stock) (vars : Vars) :
    ((applyCalls stock vars).map FdtputCall.growth).sum ≤ 114 := by
  rw [applyCalls, voltageCalls]
  split <;>
    simp only [putHz, putMicrovolt, List.map_append, List.map_cons,
      List.map_nil, List.sum_append, List.sum_cons, List.sum_nil,
      FdtputCall.growth, List.length_cons, List.length_nil] <;>
    decide

/-- One block on a file, and the file it leaves. -/
theorem applyPassFile_run
    {blob : Bytes}
    {tree : DeviceTree}
    (holds : readBlob blob = some tree)
    (editable : Editable blob)
    (small : blob.length + 114 < 2 ^ 31 - 1)
    (fresh : Nat → Nat → UInt8)
    (stock : Stock)
    (vars : Vars) :
    (applyPass stock vars tree = none ∧
      applyPassFile fresh stock vars blob = none) ∨
    ∃ after written,
      applyPass stock vars tree = some after ∧
        applyPassFile fresh stock vars blob = some written ∧
          readBlob written = some after ∧ Editable written ∧
            written.length ≤ blob.length + 114 := by
  have growth := growth_applyCalls stock vars
  have short :
      blob.length +
          ((applyCalls stock vars).map FdtputCall.growth).sum <
        2 ^ 31 - 1 := by
    omega
  rw [applyPass, applyPassFile, tablesPresentFile_of_readBlob holds]
  by_cases present : tablesPresent tree
  · rw [if_pos present, if_pos present]
    rcases runCallsFile_run holds editable
        (fun _ member => isByteName_applyCalls member) short fresh with
      failed |
        ⟨after, written, run, runFile, holdsAfter, editableAfter, longest⟩
    · exact .inl failed
    · exact .inr ⟨after, written, run, runFile, holdsAfter, editableAfter,
        by omega⟩
  · rw [if_neg present, if_neg present]
    exact .inl ⟨rfl, rfl⟩

/-- Both blocks on a file, and the file they leave. -/
theorem applyStageFile_run
    {blob : Bytes}
    {tree : DeviceTree}
    (holds : readBlob blob = some tree)
    (editable : Editable blob)
    (small : blob.length + 228 < 2 ^ 31 - 1)
    (fresh : Nat → Nat → UInt8)
    (stock : Stock)
    (vars : Vars) :
    (applyStage stock vars tree = none ∧
      applyStageFile fresh stock vars blob = none) ∨
    ∃ after written,
      applyStage stock vars tree = some after ∧
        applyStageFile fresh stock vars blob = some written ∧
          readBlob written = some after ∧ Editable written := by
  rw [applyStage, applyStageFile]
  rcases applyPassFile_run holds editable (by omega) fresh stock vars with
    ⟨failed, failedFile⟩ |
      ⟨middle, between, first, firstFile, holdsNext, editableNext, longer⟩
  · rw [failed, failedFile]
    exact .inl ⟨rfl, rfl⟩
  · rw [first, firstFile, Option.bind_some, Option.bind_some]
    rcases applyPassFile_run holdsNext editableNext (by omega)
        (fun later => fresh ((applyCalls stock vars).length + later)) stock
        vars with
      failed |
        ⟨after, written, second, secondFile, holdsLast, editableLast, -⟩
    · exact .inl failed
    · exact .inr ⟨after, written, second, secondFile, holdsLast,
        editableLast⟩

/-- One block leaves a pattern out of the names of a file. -/
theorem applyPassFile_avoids
    {blob : Bytes}
    {tree : DeviceTree}
    (holds : readBlob blob = some tree)
    (editable : Editable blob)
    (small : blob.length + 114 < 2 ^ 31 - 1)
    {fresh : Nat → Nat → UInt8}
    {stock : Stock}
    {vars : Vars}
    {written : Bytes}
    (applied : applyPassFile fresh stock vars blob = some written)
    {pattern : Bytes}
    {last : UInt8}
    {size : Nat}
    (ends : pattern.getLast? = some last)
    (absent :
      last ∉ stringBytes oppHz ∧ last ∉ stringBytes oppMicrovolt)
    (avoid : NamesAvoid pattern size blob) :
    NamesAvoid pattern size written ∧ EndAvoids pattern size written := by
  have growth := growth_applyCalls stock vars
  have notThere :
      ∀ call ∈ applyCalls stock vars,
        last ∉ stringBytes call.property := by
    intro call member
    rcases property_applyCalls member with isHz | isMicrovolt
    · rw [isHz]
      exact absent.1
    · rw [isMicrovolt]
      exact absent.2
  rw [applyPassFile] at applied
  split at applied
  · obtain ⟨avoidLast, endLast⟩ :=
      runCallsFile_avoids holds editable
        (fun _ member => isByteName_applyCalls member) (by omega) applied
        ends notThere avoid
    exact ⟨avoidLast, endLast (List.cons_ne_nil _ _)⟩
  · cases applied

/-- So do both blocks. -/
theorem applyStageFile_avoids
    {blob : Bytes}
    {tree : DeviceTree}
    (holds : readBlob blob = some tree)
    (editable : Editable blob)
    (small : blob.length + 228 < 2 ^ 31 - 1)
    {fresh : Nat → Nat → UInt8}
    {stock : Stock}
    {vars : Vars}
    {written : Bytes}
    (applied : applyStageFile fresh stock vars blob = some written)
    {pattern : Bytes}
    {last : UInt8}
    {size : Nat}
    (ends : pattern.getLast? = some last)
    (absent :
      last ∉ stringBytes oppHz ∧ last ∉ stringBytes oppMicrovolt)
    (avoid : NamesAvoid pattern size blob) :
    EndAvoids pattern size written := by
  rw [applyStageFile, Option.bind_eq_some_iff] at applied
  obtain ⟨between, first, second⟩ := applied
  obtain ⟨avoidNext, -⟩ :=
    applyPassFile_avoids holds editable (by omega) first ends absent avoid
  rcases applyPassFile_run holds editable (by omega) fresh stock vars with
    ⟨-, failed⟩ |
      ⟨middle, other, -, done, holdsNext, editableNext, longer⟩
  · rw [failed] at first
    cases first
  · cases done.symm.trans first
    exact (applyPassFile_avoids holdsNext editableNext (by omega) second
      ends absent avoidNext).2

/--
The stages on a blob are the stages on its tree: the stock values are the same,
the apply blocks fail together, and the blob they leave holds the tree they
leave, whatever fills the room that `fdtput` allocates.
-/
theorem applyStageFile_refines
    {blob : Bytes}
    {tree : DeviceTree}
    (holds : readBlob blob = some tree)
    (editable : Editable blob)
    (small : blob.length + 228 < 2 ^ 31 - 1) :
    readStockFile blob = readStock tree ∧
      ∀ fresh stock vars,
        (applyStageFile fresh stock vars blob).map readBlob =
            (applyStage stock vars tree).map some ∧
          ∀ written ∈ applyStageFile fresh stock vars blob,
            Editable written ∧
              ∀ tables,
                finalLoopFile tables written =
                  (applyStage stock vars tree).bind (finalLoop tables) := by
  refine ⟨readStockFile_of_readBlob holds, ?_⟩
  intro fresh stock vars
  rcases applyStageFile_run holds editable small fresh stock vars with
    ⟨failed, failedFile⟩ |
      ⟨after, written, applied, appliedFile, holdsAfter, editableAfter⟩
  · rw [failed, failedFile]
    exact ⟨rfl, by simp⟩
  · rw [applied, appliedFile, Option.map_some, Option.map_some, holdsAfter]
    refine ⟨rfl, ?_⟩
    rintro other found
    cases found
    exact ⟨editableAfter, finalLoopFile_of_readBlob holdsAfter⟩

theorem applyStageFile_refines_example :
    (applyStageFile (fun call _ => UInt8.ofNat call) readmeStock exampleVars
        (exampleBlob readmeTree)).map readBlob =
      (applyStage readmeStock exampleVars readmeTree).map some := by
  have holds : readBlob (exampleBlob readmeTree) = some readmeTree :=
    readBlob_writeBlob (by decide +kernel) (by decide +kernel)
  have editable : Editable (exampleBlob readmeTree) :=
    editable_assembleBlob (by decide +kernel)
  exact ((applyStageFile_refines holds editable (by decide +kernel)).2 _ _
    _).1

/-! ## From table to table -/

/-- `unpack/dtb` through `mt6768.dtb` and `mt6768_oc.dtb` to `dtb_oc`. -/
def buildDtbOc
    (fresh : Nat → Nat → UInt8)
    (stock : Stock)
    (vars : Vars)
    (unpackedDtb : Bytes) :
    Option Bytes :=
  (extractStockBlob unpackedDtb).bind fun blob =>
    (applyStageFile fresh stock vars blob).bind (rebuildTable unpackedDtb)

/--
What the script cuts out of the table it built is a blob with the patched tree,
and the final verification prints the frequencies of that tree.
-/
theorem buildDtbOc_carries_stage
    {unpackedDtb blob : Bytes}
    {tree : DeviceTree}
    (extracted : extractStockBlob unpackedDtb = some blob)
    (holds : readBlob blob = some tree)
    (editable : Editable blob)
    (small : blob.length + 228 < 2 ^ 31 - 1)
    {fresh : Nat → Nat → UInt8}
    {stock : Stock}
    {vars : Vars}
    {table : Bytes}
    (built : buildDtbOc fresh stock vars unpackedDtb = some table) :
    ∃ patched final,
      applyStage stock vars tree = some patched ∧
        extractBlob table = some final ∧
          readBlob final = some patched ∧
            ∀ tables,
              finalLoopFile tables final = finalLoop tables patched := by
  rw [buildDtbOc, extracted, Option.bind_some, Option.bind_eq_some_iff]
    at built
  obtain ⟨written, appliedFile, rebuilt⟩ := built
  obtain ⟨again, -⟩ := extractBlob_rebuildTable rebuilt
  rcases applyStageFile_run holds editable small fresh stock vars with
    ⟨-, failedFile⟩ |
      ⟨patched, other, applied, otherFile, holdsAfter, -⟩
  · rw [failedFile] at appliedFile
    cases appliedFile
  · rw [otherFile, Option.some.injEq] at appliedFile
    subst appliedFile
    exact ⟨patched, other, applied, again, holdsAfter,
      finalLoopFile_of_readBlob holdsAfter⟩

theorem buildDtbOc_carries_stage_example :
    ∃ table blob dtbOc patched final,
      exampleDtTable (exampleBlob readmeTree) = some table ∧
        extractStockBlob table = some blob ∧
          buildDtbOc (fun _ _ => 255) readmeStock exampleVars table =
              some dtbOc ∧
            extractBlob dtbOc = some final ∧
              readBlob final = some patched ∧
                applyStage readmeStock exampleVars readmeTree =
                  some patched := by
  have holds : readBlob (exampleBlob readmeTree) = some readmeTree :=
    readBlob_writeBlob (by decide +kernel) (by decide +kernel)
  have editable : Editable (exampleBlob readmeTree) :=
    editable_assembleBlob (by decide +kernel)
  have small : (exampleBlob readmeTree).length + 228 < 2 ^ 31 - 1 := by
    decide +kernel
  have created :
      (exampleDtTable (exampleBlob readmeTree)).bind extractStockBlob =
        some (exampleBlob readmeTree) := by
    decide +kernel
  obtain ⟨table, isTable, extracted⟩ :=
    Option.bind_eq_some_iff.mp created
  have completes :
      ((exampleDtTable (exampleBlob readmeTree)).bind
        (buildDtbOc (fun _ _ => 255) readmeStock exampleVars)).isSome := by
    decide +kernel
  rw [isTable, Option.bind_some] at completes
  obtain ⟨dtbOc, built⟩ := Option.isSome_iff_exists.mp completes
  obtain ⟨patched, final, applied, again, read, -⟩ :=
    buildDtbOc_carries_stage extracted holds editable small built
  exact ⟨table, _, dtbOc, patched, final, isTable, extracted, built, again,
    read, applied⟩

end OverclockBuilder
