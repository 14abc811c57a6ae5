import OverclockBuilder.ApplyStage
import OverclockBuilder.AvbFooter
import OverclockBuilder.FailFast
import OverclockBuilder.MenuReachable

namespace OverclockBuilder

open RadixText BashText ShellFlow BytePacking FailFast

/-!
# A run of the builder

The script prepares a work directory, asks its menus, and builds.  Its commands
run under `set -e`; all but three of them write below `$WORK` only, which is
removed at the end.  What a command computes there is left open, and so is
whether it succeeds; the commands from the copy into `output/` on fail where
their input or the system makes them.
-/

/-- The files that outlive a run. -/
structure Files where
  /-- `vendor_boot.img` -/
  input : Bytes
  /-- `output/` -/
  output : Text → Option Bytes

/-- `output/NAME` gets new content. -/
def Files.write (name : Text) (content : Bytes) (files : Files) : Files :=
  { files with
    output := fun other =>
      if other = name then some content else files.output other }

@[simp] theorem Files.output_write
    (name : Text)
    (content : Bytes)
    (files : Files) :
    (files.write name content).output name = some content :=
  if_pos rfl

/-- A file outside `$WORK`. -/
inductive Target where
  | input
  | output (name : Text)
  deriving Repr, DecidableEq

/-- All files but some are as before. -/
structure Reopened (targets : List Target) (before after : Files) : Prop where
  input : .input ∉ targets → after.input = before.input
  output :
    ∀ name, .output name ∉ targets →
      after.output name = before.output name

/-- The commands of the script outside its menus, in the order of the stages. -/
inductive Command where
  | mktemp
  | mkdirOutDir
  | infoImage
  | readAvb
  | checkAvb
  | unpack
  | checkDtb
  | dump
  | readDtTable
  | checkDtCount
  | ddStock
  | cpWork
  | checkTables
  | readStock
  | fdtput (call : FdtputCall)
  | mkdtboimg
  | readArgs
  | sedArgs
  | mkbootimg
  | statPayload
  | checkPayloadSize
  | cpOutput
  | addHashFooter
  | mkdirVerify
  | unpackOutput
  | dumpOutput
  | readVerify
  | ddFinal
  | readFinal (table : Text)
  | sha256sum
  deriving Repr, DecidableEq

/-- The commands that write outside `$WORK`, or may be told to. -/
def Command.writesOutside : Command → Bool
  | .mkbootimg => true
  | .cpOutput => true
  | .addHashFooter => true
  | _ => false

/-- Stages 1 to 4, in front of the menus. -/
def prepareCommands : List Command :=
  [.mktemp, .mkdirOutDir, .infoImage, .readAvb, .checkAvb, .unpack,
    .checkDtb, .dump, .readDtTable, .checkDtCount, .ddStock, .cpWork,
    .checkTables, .readStock]

/-- One `TERAPKAN PERUBAHAN KE DTB` block. -/
def applyCommands (stock : Stock) (vars : Vars) : List Command :=
  .checkTables :: (applyCalls stock vars).map .fdtput

/-- Stages 4 to 6, up to the copy into `output/`. -/
def packCommands (stock : Stock) (vars : Vars) : List Command :=
  .mkdirOutDir :: (applyCommands stock vars ++ applyCommands stock vars ++
    [.mkdtboimg, .readArgs, .sedArgs, .mkbootimg, .statPayload,
      .checkPayloadSize])

/-- Stage 8, which reads the new image back. -/
def verifyCommands : List Command :=
  [.mkdirVerify, .unpackOutput, .dumpOutput, .readVerify, .ddFinal,
    .readFinal littleTable, .readFinal bigTable, .sha256sum]

/-- Stages 7 and 8, from the copy on. -/
def publishCommands : List Command :=
  .cpOutput :: .addHashFooter :: verifyCommands

/-- Everything behind the menus. -/
def buildCommands (stock : Stock) (vars : Vars) : List Command :=
  packCommands stock vars ++ publishCommands

/-- What the commands in front of `cp`, the tools and the system come to. -/
structure Surroundings where
  /-- `vendor_boot_payload.img` -/
  payload : Bytes
  /-- `IMAGE_SIZE` -/
  partitionSize : Nat
  /-- what `avbtool.py` generates for an image -/
  vbmetaBlob : Bytes → Option Bytes
  /-- the files outside `$WORK` that `mkbootimg.py` opens for writing -/
  opened : List Target
  /-- a command takes its arguments, and the system lets it finish -/
  serves : Command → Bool
  /-- a command of the last stage finds what it needs in an image -/
  verifies : Bytes → Command → Bool

/-- `$(basename vendor_boot.img .img)_OC+${MHZ}MHz.img` -/
def outputName (mhz : Text) : Text :=
  "vendor_boot_OC+".toList ++ mhz ++ "MHz.img".toList

/-- What the commands do to the files that stay. -/
inductive Effect
    (name : Text)
    (surroundings : Surroundings) :
    Effects Command Files where
  /-- a command in front of the copy that writes below `$WORK` at most -/
  | inWork
      {command : Command}
      (inside : command.writesOutside = false)
      (early : command ∉ verifyCommands)
      (status : Status)
      (files : Files) :
      Effect name surroundings command status files files
  /-- `argparse` opens files for writing, whatever happens later -/
  | packed
      (status : Status)
      {before after : Files}
      (reopened : Reopened surroundings.opened before after) :
      Effect name surroundings .mkbootimg status before after
  | copied
      (served : surroundings.serves .cpOutput = true)
      (files : Files) :
      Effect name surroundings .cpOutput .success files
        (files.write name surroundings.payload)
  /-- `cp` could not open its target -/
  | refused
      (unserved : surroundings.serves .cpOutput = false)
      (files : Files) :
      Effect name surroundings .cpOutput .failure files files
  /-- `cp` stopped in the middle -/
  | torn
      (unserved : surroundings.serves .cpOutput = false)
      (files : Files)
      (count : Nat) :
      Effect name surroundings .cpOutput .failure files
        (files.write name (surroundings.payload.take count))
  | footed
      (served : surroundings.serves .addHashFooter = true)
      {files : Files}
      {content : Bytes}
      (here : files.output name = some content)
      (succeeded :
        (OverclockBuilder.addHashFooter surroundings.vbmetaBlob
          surroundings.partitionSize content).succeeded = true) :
      Effect name surroundings .addHashFooter .success files
        (files.write name
          (OverclockBuilder.addHashFooter surroundings.vbmetaBlob
            surroundings.partitionSize content).image)
  /-- `avbtool.py` restored the image it started from -/
  | rolledBack
      {files : Files}
      {content : Bytes}
      (here : files.output name = some content)
      (failed :
        (OverclockBuilder.addHashFooter surroundings.vbmetaBlob
          surroundings.partitionSize content).succeeded = false) :
      Effect name surroundings .addHashFooter .failure files
        (files.write name
          (OverclockBuilder.addHashFooter surroundings.vbmetaBlob
            surroundings.partitionSize content).image)
  /-- `avbtool.py` did not start, or was stopped in the middle -/
  | interrupted
      (unserved : surroundings.serves .addHashFooter = false)
      {before after : Files}
      (reopened : Reopened [.output name] before after) :
      Effect name surroundings .addHashFooter .failure before after
  /-- the last stage reads only -/
  | verified
      {command : Command}
      (late : command ∈ verifyCommands)
      {status : Status}
      {files : Files}
      {content : Bytes}
      (here : files.output name = some content)
      (decides :
        status = .success ↔
          surroundings.serves command = true ∧
            surroundings.verifies content command = true) :
      Effect name surroundings command status files files

/-- How a run ends. -/
inductive Ending where
  /-- `BUILD BERHASIL` -/
  | success
  /-- the menus ended the script -/
  | leftMenus (code : Nat)
  /-- a command failed -/
  | stopped (command : Command)
  deriving Repr, DecidableEq

/-- The ending behind the menus. -/
def Ending.ofOutcome : Option Command → Ending
  | none => .success
  | some command => .stopped command

/-- The output of a run that answers the menus with the given lines. -/
def runOutputName (stock : Stock) (lines : List Text) : Text :=
  outputName (runMenus stock lines).2.vars.mhz

/-- A run of the script on the lines of its standard input. -/
inductive BuilderRun
    (surroundings : Surroundings)
    (stock : Stock)
    (lines : List Text) :
    Files → Files → Ending → Prop where
  | unprepared
      {before after : Files}
      {command : Command}
      (prepare :
        Runs (Effect (runOutputName stock lines) surroundings)
          prepareCommands before after (some command)) :
      BuilderRun surroundings stock lines before after (.stopped command)
  | leftMenus
      {before after : Files}
      {code : Nat}
      (prepare :
        Runs (Effect (runOutputName stock lines) surroundings)
          prepareCommands before after none)
      (left : (runMenus stock lines).1 = .exit code) :
      BuilderRun surroundings stock lines before after (.leftMenus code)
  | built
      {before between after : Files}
      {outcome : Option Command}
      (prepare :
        Runs (Effect (runOutputName stock lines) surroundings)
          prepareCommands before between none)
      (chosen : (runMenus stock lines).1 = .next)
      (build :
        Runs (Effect (runOutputName stock lines) surroundings)
          (buildCommands stock (runMenus stock lines).2.vars)
          between after outcome) :
      BuilderRun surroundings stock lines before after
        (Ending.ofOutcome outcome)

/-! ## What a run leaves alone -/

section Reopened

variable {targets : List Target} {before between after : Files}

theorem Reopened.refl
    (targets : List Target)
    (files : Files) :
    Reopened targets files files :=
  ⟨fun _ => rfl, fun _ _ => rfl⟩

theorem Reopened.trans
    (early : Reopened targets before between)
    (late : Reopened targets between after) :
    Reopened targets before after := by
  refine ⟨?_, ?_⟩
  · intro closed
    exact (late.input closed).trans (early.input closed)
  · intro name closed
    exact (late.output name closed).trans (early.output name closed)

theorem Reopened.mono
    (reopened : Reopened targets before after)
    {more : List Target}
    (among : targets ⊆ more) :
    Reopened more before after := by
  refine ⟨?_, ?_⟩
  · intro closed
    exact reopened.input fun opened => closed (among opened)
  · intro name closed
    exact reopened.output name fun opened => closed (among opened)

theorem Reopened.eq_of_nil (reopened : Reopened [] before after) :
    after = before := by
  obtain ⟨input, output⟩ := after
  have sameInput := reopened.input List.not_mem_nil
  have sameOutput : output = before.output :=
    funext fun name => reopened.output name List.not_mem_nil
  rw [show input = before.input from sameInput, sameOutput]

theorem reopened_write
    (name : Text)
    (content : Bytes)
    (files : Files) :
    Reopened [.output name] files (files.write name content) := by
  refine ⟨fun _ => rfl, ?_⟩
  intro other closed
  have different : other ≠ name := by
    rintro rfl
    exact closed List.mem_cons_self
  exact if_neg different

end Reopened

section Frame

variable {name : Text} {surroundings : Surroundings}

/-- A command writes the new image or a file `mkbootimg.py` opens. -/
theorem effect_reopened
    {command : Command}
    {status : Status}
    {before after : Files}
    (effect : Effect name surroundings command status before after) :
    Reopened (.output name :: surroundings.opened) before after := by
  have image : [.output name] ⊆ .output name :: surroundings.opened :=
    List.cons_subset_cons _ (List.nil_subset _)
  cases effect with
  | inWork | refused | verified =>
      exact Reopened.refl _ _
  | packed _ reopened =>
      exact reopened.mono (List.subset_cons_self _ _)
  | copied | torn | footed | rolledBack =>
      exact (reopened_write _ _ _).mono image
  | interrupted _ reopened =>
      exact reopened.mono image

theorem runs_reopened
    {script : List Command}
    {before after : Files}
    {outcome : Option Command}
    (runs : Runs (Effect name surroundings) script before after outcome) :
    Reopened (.output name :: surroundings.opened) before after := by
  refine runs.invariant _ (Reopened.refl _) Reopened.trans ?_
  intro command member status first second effect
  exact effect_reopened effect

/-- The commands in front of the copy write what `mkbootimg.py` opens. -/
theorem runs_early
    {script : List Command}
    (early : ∀ command ∈ script, command ∉ publishCommands)
    {before after : Files}
    {outcome : Option Command}
    (runs : Runs (Effect name surroundings) script before after outcome) :
    Reopened surroundings.opened before after := by
  refine runs.invariant _ (Reopened.refl _) Reopened.trans ?_
  intro command member status first second effect
  have notLate := early command member
  cases effect with
  | inWork =>
      exact Reopened.refl _ _
  | packed _ reopened =>
      exact reopened
  | copied | refused | torn | footed | rolledBack | interrupted =>
      exact absurd (by decide) notLate
  | verified late =>
      refine absurd ?_ notLate
      exact List.mem_cons_of_mem _ (List.mem_cons_of_mem _ late)

/-- Commands that stay below `$WORK` leave every file alone. -/
theorem runs_inWork
    {script : List Command}
    (inside : ∀ command ∈ script, command.writesOutside = false)
    {before after : Files}
    {outcome : Option Command}
    (runs : Runs (Effect name surroundings) script before after outcome) :
    after = before := by
  refine runs.invariant (fun first second => second = first)
    (fun _ => rfl) (fun early late => late.trans early) ?_
  intro command member status first second effect
  have notOutside := inside command member
  cases effect with
  | inWork | verified => rfl
  | packed | copied | refused | torn | footed | rolledBack | interrupted =>
      cases notOutside

/-- Commands in front of the copy can all succeed. -/
theorem early_runs
    {script : List Command}
    (early : ∀ command ∈ script, command ∉ publishCommands)
    (files : Files) :
    Runs (Effect name surroundings) script files files none := by
  induction script with
  | nil =>
      exact .finished files
  | cons command rest inductionHypothesis =>
      have notLate := early command List.mem_cons_self
      rw [publishCommands, List.mem_cons, List.mem_cons, not_or, not_or]
        at notLate
      obtain ⟨notCopy, notFooter, notVerify⟩ := notLate
      have succeeds :
          Effect name surroundings command .success files files := by
        by_cases packs : command = .mkbootimg
        · subst packs
          exact .packed .success (Reopened.refl _ files)
        · refine .inWork ?_ notVerify .success files
          unfold Command.writesOutside
          split
          · exact (packs rfl).elim
          · exact (notCopy rfl).elim
          · exact (notFooter rfl).elim
          · rfl
      exact .continued succeeds (inductionHypothesis fun other member =>
        early other (List.mem_cons_of_mem command member))

end Frame

theorem prepareCommands_inWork :
    ∀ command ∈ prepareCommands, command.writesOutside = false := by
  decide

theorem prepareCommands_early :
    ∀ command ∈ prepareCommands, command ∉ publishCommands := by
  decide

theorem packCommands_early
    (stock : Stock)
    (vars : Vars) :
    ∀ command ∈ packCommands stock vars, command ∉ publishCommands := by
  have apply :
      ∀ command ∈ applyCommands stock vars,
        command ∉ publishCommands := by
    intro command member
    rcases List.mem_cons.mp member with rfl | calls
    · decide
    · obtain ⟨call, -, rfl⟩ := List.mem_map.mp calls
      simp [publishCommands, verifyCommands]
  have pack :
      ∀ command ∈ [Command.mkdtboimg, .readArgs, .sedArgs, .mkbootimg,
          .statPayload, .checkPayloadSize],
        command ∉ publishCommands := by
    decide
  intro command member
  rw [packCommands, List.mem_cons, List.mem_append, List.mem_append]
    at member
  rcases member with rfl | (first | second) | behind
  · decide
  · exact apply command first
  · exact apply command second
  · exact pack command behind

end OverclockBuilder
