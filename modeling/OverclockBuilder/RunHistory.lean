import OverclockBuilder.BuildRun

namespace OverclockBuilder

open RadixText BashText ShellFlow BytePacking FailFast

/-!
# Histories of runs

The image is copied into `output/` before it has a footer and before it is
verified.  A run that fails earlier leaves the files alone that `mkbootimg.py`
does not open; a run whose commands from the copy on cannot fail puts a complete
image under its name.
-/

/-- The run got as far as the copy. -/
def Ending.reachesCopy : Ending → Bool
  | .success => true
  | .leftMenus _ => false
  | .stopped command => publishCommands.contains command

/-! ## The commands from the copy on -/

/-- The footer the image gets, or the image without one. -/
def Surroundings.footed (surroundings : Surroundings) : FooterResult :=
  addHashFooter surroundings.vbmetaBlob surroundings.partitionSize
    surroundings.payload

/-- Neither the payload nor the system makes a command from the copy on fail. -/
structure Surroundings.Fits (surroundings : Surroundings) : Prop where
  serves : ∀ command ∈ publishCommands, surroundings.serves command = true
  succeeded : surroundings.footed.succeeded = true
  verifies :
    ∀ command ∈ verifyCommands,
      surroundings.verifies surroundings.footed.image command = true

/-- The files with the new image and its footer. -/
def publishedFiles
    (name : Text)
    (surroundings : Surroundings)
    (files : Files) :
    Files :=
  (files.write name surroundings.payload).write name
    surroundings.footed.image

section Publish

variable {name : Text} {surroundings : Surroundings} {before after : Files}
  {outcome : Option Command}

theorem output_publishedFiles (files : Files) :
    (publishedFiles name surroundings files).output name =
      some surroundings.footed.image :=
  Files.output_write name _ _

/-- Stages 7 and 8, when nothing in them fails. -/
theorem runs_publish
    (runs :
      Runs (Effect name surroundings) publishCommands before after none) :
    surroundings.serves .addHashFooter = true ∧
      surroundings.footed.succeeded = true ∧
        after = publishedFiles name surroundings before := by
  cases runs with
  | @continued _ _ _ between _ _ copied later =>
      cases copied with
      | inWork inside =>
          cases inside
      | verified late =>
          exact absurd late (by decide)
      | copied =>
          cases later with
          | @continued _ _ _ footed _ _ effect verify =>
              have unchanged : after = footed := by
                refine runs_inWork ?_ verify
                decide
              subst unchanged
              cases effect with
              | inWork inside =>
                  cases inside
              | verified late =>
                  exact absurd late (by decide)
              | footed served here succeeded =>
                  rw [Files.output_write, Option.some.injEq] at here
                  subst here
                  exact ⟨served, succeeded, rfl⟩

/-- The last stage cannot fail on an image that it accepts. -/
theorem runs_verify
    {script : List Command}
    (late : ∀ command ∈ script, command ∈ verifyCommands)
    (serves : ∀ command ∈ script, surroundings.serves command = true)
    {image : Bytes}
    (verifies :
      ∀ command ∈ script, surroundings.verifies image command = true)
    (here : before.output name = some image)
    (runs : Runs (Effect name surroundings) script before after outcome) :
    outcome = none := by
  have decided {command : Command} {status : Status} {files : Files}
      (member : command ∈ script)
      (content : files.output name = some image)
      {later : Files}
      (effect : Effect name surroundings command status files later) :
      status = .success ∧ later = files := by
    have isLate := late command member
    cases effect with
    | inWork _ early =>
        exact (early isLate).elim
    | packed | copied | refused | torn | footed | rolledBack
        | interrupted =>
        exact absurd isLate (by decide)
    | verified _ found decides =>
        rw [content, Option.some.injEq] at found
        subst found
        exact ⟨decides.mpr
          ⟨serves command member, verifies command member⟩, rfl⟩
  induction runs with
  | finished =>
      rfl
  | stopped rest effect =>
      cases (decided List.mem_cons_self here effect).1
  | continued effect later inductionHypothesis =>
      obtain ⟨-, rfl⟩ := decided List.mem_cons_self here effect
      exact inductionHypothesis
        (fun other member => late other (List.mem_cons_of_mem _ member))
        (fun other member => serves other (List.mem_cons_of_mem _ member))
        (fun other member => verifies other (List.mem_cons_of_mem _ member))
        here
        fun member content => decided (List.mem_cons_of_mem _ member) content

/-- With a payload that fits, the commands from the copy on cannot fail. -/
theorem outcome_of_fits
    (fits : surroundings.Fits)
    (runs :
      Runs (Effect name surroundings) publishCommands before after
        outcome) :
    outcome = none := by
  have serves := fits.serves
  rw [publishCommands, List.forall_mem_cons, List.forall_mem_cons] at serves
  obtain ⟨copies, addsFooter, verifies⟩ := serves
  cases runs with
  | stopped rest effect =>
      cases effect with
      | inWork inside =>
          cases inside
      | verified late =>
          exact absurd late (by decide)
      | refused unserved | torn unserved =>
          rw [copies] at unserved
          cases unserved
  | continued effect later =>
      cases effect with
      | inWork inside =>
          cases inside
      | verified late =>
          exact absurd late (by decide)
      | copied =>
          cases later with
          | stopped rest effect =>
              cases effect with
              | inWork inside =>
                  cases inside
              | verified late =>
                  exact absurd late (by decide)
              | rolledBack here failed =>
                  rw [Files.output_write, Option.some.injEq] at here
                  subst here
                  have succeeded := fits.succeeded
                  rw [Surroundings.footed, failed] at succeeded
                  cases succeeded
              | interrupted unserved =>
                  rw [addsFooter] at unserved
                  cases unserved
          | continued effect verify =>
              cases effect with
              | inWork inside =>
                  cases inside
              | verified late =>
                  exact absurd late (by decide)
              | footed _ here succeeded =>
                  rw [Files.output_write, Option.some.injEq] at here
                  subst here
                  exact runs_verify (fun _ member => member) verifies
                    fits.verifies (output_publishedFiles before) verify

/-- They can all succeed. -/
theorem publish_runs
    (fits : surroundings.Fits)
    (files : Files) :
    Runs (Effect name surroundings) publishCommands files
      (publishedFiles name surroundings files) none := by
  have served (command : Command)
      (member : command ∈ publishCommands) :=
    fits.serves command member
  have verify
      (script : List Command)
      (late : ∀ command ∈ script, command ∈ verifyCommands) :
      Runs (Effect name surroundings) script
        (publishedFiles name surroundings files)
        (publishedFiles name surroundings files) none := by
    induction script with
    | nil =>
        exact .finished _
    | cons command rest inductionHypothesis =>
        have isLate := late command List.mem_cons_self
        refine .continued (.verified isLate (output_publishedFiles files) ?_)
          (inductionHypothesis fun other member =>
            late other (List.mem_cons_of_mem command member))
        refine iff_of_true rfl ⟨served command ?_, fits.verifies command
          isLate⟩
        exact List.mem_cons_of_mem _ (List.mem_cons_of_mem _ isLate)
  exact .continued (.copied (served _ List.mem_cons_self) files)
    (.continued
      (.footed (served _ (by decide)) (Files.output_write _ _ files)
        fits.succeeded)
      (verify verifyCommands fun _ member => member))

end Publish

/-! ## Runs -/

section Run

variable {surroundings : Surroundings} {stock : Stock} {lines : List Text}
  {before after : Files} {ending : Ending}

/-- The commands of a successful run from the copy on. -/
theorem builderRun_published
    (run : BuilderRun surroundings stock lines before after ending)
    (succeeded : ending = .success) :
    surroundings.serves .addHashFooter = true ∧
      surroundings.footed.succeeded = true ∧
        ∃ middle,
          after =
            publishedFiles (runOutputName stock lines) surroundings
              middle := by
  cases run with
  | unprepared prepare =>
      cases succeeded
  | leftMenus prepare left =>
      cases succeeded
  | @built between _ outcome prepare chosen build =>
      cases outcome with
      | some command =>
          cases succeeded
      | none =>
          rcases build.append_inv with
            ⟨command, stopped, -⟩ | ⟨middle, packed, published⟩
          · cases stopped
          · obtain ⟨served, footed, isAfter⟩ := runs_publish published
            exact ⟨served, footed, middle, isAfter⟩

/-- A successful run puts an image with a footer under its name. -/
theorem builderRun_success
    (run : BuilderRun surroundings stock lines before after ending)
    (succeeded : ending = .success) :
    (addHashFooter surroundings.vbmetaBlob surroundings.partitionSize
        surroundings.payload).succeeded = true ∧
      after.output (runOutputName stock lines) =
        some (addHashFooter surroundings.vbmetaBlob
          surroundings.partitionSize surroundings.payload).image := by
  obtain ⟨-, footed, middle, rfl⟩ := builderRun_published run succeeded
  exact ⟨footed, output_publishedFiles middle⟩

/-- A run writes under its own name, and what `mkbootimg.py` opens. -/
theorem builderRun_reopened
    (run : BuilderRun surroundings stock lines before after ending) :
    Reopened (.output (runOutputName stock lines) :: surroundings.opened)
      before after := by
  cases run with
  | unprepared prepare =>
      exact runs_reopened prepare
  | leftMenus prepare left =>
      exact runs_reopened prepare
  | built prepare chosen build =>
      exact (runs_reopened prepare).trans (runs_reopened build)

/-- A run that fails in front of the copy writes what `mkbootimg.py` opens. -/
theorem builderRun_early
    (run : BuilderRun surroundings stock lines before after ending)
    (early : ending.reachesCopy = false) :
    Reopened surroundings.opened before after := by
  cases run with
  | unprepared prepare =>
      exact runs_early prepareCommands_early prepare
  | leftMenus prepare left =>
      exact runs_early prepareCommands_early prepare
  | @built between _ outcome prepare chosen build =>
      have prepared := runs_early prepareCommands_early prepare
      rcases build.append_inv with
        ⟨command, -, packed⟩ | ⟨middle, packed, published⟩
      · exact prepared.trans (runs_early (packCommands_early _ _) packed)
      · cases outcome with
        | none =>
            cases early
        | some command =>
            have member := published.stopped_mem
            simp [Ending.ofOutcome, Ending.reachesCopy, member] at early

/-- A run that gets as far as the copy with a payload that fits succeeds. -/
theorem builderRun_of_fits
    (run : BuilderRun surroundings stock lines before after ending)
    (reaches : ending.reachesCopy = true)
    (fits : surroundings.Fits) :
    ending = .success := by
  cases run with
  | unprepared prepare =>
      have member := prepare.stopped_mem
      rw [Ending.reachesCopy, List.contains_iff_mem] at reaches
      exact (prepareCommands_early _ member reaches).elim
  | leftMenus prepare left =>
      cases reaches
  | @built between _ outcome prepare chosen build =>
      rcases build.append_inv with
        ⟨command, rfl, packed⟩ | ⟨middle, packed, published⟩
      · have member := packed.stopped_mem
        rw [Ending.ofOutcome, Ending.reachesCopy, List.contains_iff_mem]
          at reaches
        exact (packCommands_early _ _ _ member reaches).elim
      · rw [outcome_of_fits fits published]
        rfl

/-- Everything in front of the copy can succeed. -/
theorem builderRun_of_publish
    (chosen : (runMenus stock lines).1 = .next)
    (outcome : Option Command)
    (publish :
      Runs (Effect (runOutputName stock lines) surroundings)
        publishCommands before after outcome) :
    BuilderRun surroundings stock lines before after
      (Ending.ofOutcome outcome) :=
  .built (early_runs prepareCommands_early before) chosen
    ((early_runs (packCommands_early _ _) before).append publish)

end Run

/-! ## Histories -/

/-- One run of the script, with what it started from and what it left. -/
structure RunRecord where
  surroundings : Surroundings
  stock : Stock
  lines : List Text
  before : Files
  after : Files
  ending : Ending
  run : BuilderRun surroundings stock lines before after ending

/-- `OUTPUT` of the run -/
def RunRecord.outputName (record : RunRecord) : Text :=
  runOutputName record.stock record.lines

/-- Runs one after the other, the last one first. -/
inductive History (initial : Files) : Files → List RunRecord → Prop where
  | start :
      History initial initial []
  | next
      {files : Files}
      {records : List RunRecord}
      (history : History initial files records)
      (record : RunRecord)
      (resumes : record.before = files) :
      History initial record.after (record :: records)

/--
The image of a run: it fills the partition, and the footer at its end gives the
size of the image in front of the vbmeta blob.
-/
def RunRecord.Complete (record : RunRecord) (image : Bytes) : Prop :=
  ∃ blob,
    record.surroundings.vbmetaBlob
          (originalImage record.surroundings.payload) =
        some blob ∧
      image = footedImage record.surroundings.partitionSize
          (originalImage record.surroundings.payload) blob ∧
        image.length = record.surroundings.partitionSize ∧
          footerOf image =
            some (newFooter
              (originalImage record.surroundings.payload) blob)

theorem complete_of_success
    (record : RunRecord)
    (succeeded : record.ending = .success) :
    ∃ image,
      record.after.output record.outputName = some image ∧
        record.Complete image := by
  obtain ⟨footed, content⟩ := builderRun_success record.run succeeded
  obtain ⟨blob, generated, isFooted, -, length, footer⟩ :=
    addHashFooter_succeeded footed
  rw [isFooted] at content
  exact ⟨_, content, blob, generated, rfl, length, footer⟩

/-- A run that changes its own image at most, and nothing if it fails. -/
structure RunRecord.Intact (record : RunRecord) : Prop where
  frame : Reopened [.output record.outputName] record.before record.after
  unchanged : record.ending ≠ .success → record.after = record.before

/-- What is in `output/` was there, or comes from a run that succeeded. -/
theorem history_complete
    {initial final : Files}
    {records : List RunRecord}
    (history : History initial final records)
    (intact : ∀ record ∈ records, record.Intact) :
    final.input = initial.input ∧
      ∀ name image, final.output name = some image →
        initial.output name = some image ∨
          ∃ record ∈ records,
            record.ending = .success ∧ record.outputName = name ∧
              record.Complete image := by
  induction history with
  | start =>
      exact ⟨rfl, fun _ _ here => .inl here⟩
  | @next files records history record resumes inductionHypothesis =>
      obtain ⟨input, images⟩ := inductionHypothesis
        fun other member => intact other (List.mem_cons_of_mem record member)
      obtain ⟨frame, unchanged⟩ := intact record List.mem_cons_self
      refine ⟨?_, ?_⟩
      · rw [frame.input (by simp), resumes, input]
      · intro name image here
        have fromBefore
            (same : record.after.output name = record.before.output name) :
            initial.output name = some image ∨
              ∃ other ∈ record :: records,
                other.ending = .success ∧ other.outputName = name ∧
                  other.Complete image := by
          rw [same, resumes] at here
          rcases images name image here with fromStart | ⟨other, member, made⟩
          · exact .inl fromStart
          · exact .inr ⟨other, List.mem_cons_of_mem record member, made⟩
        by_cases succeeded : record.ending = .success
        · by_cases isName : name = record.outputName
          · obtain ⟨made, content, complete⟩ :=
              complete_of_success record succeeded
            rw [isName, content, Option.some.injEq] at here
            subst here
            exact .inr ⟨record, List.mem_cons_self, succeeded, isName.symm,
              complete⟩
          · refine fromBefore (frame.output name ?_)
            rw [List.mem_singleton, Target.output.injEq]
            exact isName
        · exact fromBefore (by rw [unchanged succeeded])

end OverclockBuilder
