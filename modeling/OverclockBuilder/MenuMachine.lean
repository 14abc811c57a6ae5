import OverclockBuilder.MenuScript

namespace OverclockBuilder

open RadixText BashText ShellFlow

/-!
# The menus as one state machine

Between two answers the script does nothing that depends on further input, so
its control state is the `read` it is waiting at.  `reply` is the transition
function over those prompts, and `resume` runs it on the remaining lines.
`menus_eq_resume` proves that the nested loops of the script, with their
breaks, their shared `CHOICE` variable and their abandoned expansions, compute
exactly this machine; in particular the menu phase always ends.
-/

/-- Where the menus are between two lines of input. -/
inductive Location where
  | ask : Prompt → Location
  | cancelled
  | build
  deriving Repr, DecidableEq

/-- The effect of one answered line. -/
structure Reply where
  vars : Vars
  printed : List Output
  location : Location
  deriving Repr, DecidableEq

namespace Reply

/-- Show the voltage menu. -/
def voltageMenu (vars : Vars) : Reply :=
  ⟨vars, [.voltageScreen], .ask .voltageChoice⟩

/-- Show the summary. -/
def summary (vars : Vars) : Reply :=
  ⟨vars, [.summaryScreen], .ask .summaryChoice⟩

/-- Show the voltage entry dialogue. -/
def voltageEntry (vars : Vars) : Reply :=
  ⟨vars, [.voltageEntryScreen], .ask .littleVoltage⟩

/-- Show the frequency screen below the voltage menu. -/
def voltageFrequency (vars : Vars) : Reply :=
  ⟨vars, [.voltageFrequencyScreen], .ask .voltageFrequencyChoice⟩

/-- Show the voltage screen below the summary. -/
def summaryVoltage (vars : Vars) : Reply :=
  ⟨vars, [.summaryVoltageScreen], .ask .summaryVoltageChoice⟩

/-- Show the frequency screen below the summary. -/
def summaryFrequency (vars : Vars) : Reply :=
  ⟨vars, [.summaryFrequencyScreen], .ask .summaryFrequencyChoice⟩

/-- Leave the menus for the apply stage. -/
def build (vars : Vars) : Reply :=
  ⟨vars, [], .build⟩

/-- Print a message first. -/
def saying (message : Output) (reply : Reply) : Reply :=
  { reply with printed := message :: reply.printed }

/-- The test of `CHOICE` that ends an iteration of the voltage menu. -/
def endVoltageMenu (vars : Vars) : Reply :=
  if vars.choice = ['y'] ∨ vars.choice = ['n'] then
    summary vars
  else
    voltageMenu vars

/-- The test of `CHOICE` that ends an iteration of the summary. -/
def endSummary (vars : Vars) : Reply :=
  if vars.choice = ['y'] then
    build vars
  else
    summary vars

section Vars

variable (vars : Vars)

@[simp] theorem voltageMenu_vars : (voltageMenu vars).vars = vars := rfl

@[simp] theorem summary_vars : (summary vars).vars = vars := rfl

@[simp] theorem voltageEntry_vars : (voltageEntry vars).vars = vars := rfl

@[simp] theorem voltageFrequency_vars :
    (voltageFrequency vars).vars = vars := rfl

@[simp] theorem summaryVoltage_vars :
    (summaryVoltage vars).vars = vars := rfl

@[simp] theorem summaryFrequency_vars :
    (summaryFrequency vars).vars = vars := rfl

@[simp] theorem build_vars : (build vars).vars = vars := rfl

@[simp] theorem saying_vars (message : Output) (reply : Reply) :
    (reply.saying message).vars = reply.vars := rfl

@[simp] theorem endVoltageMenu_vars :
    (endVoltageMenu vars).vars = vars := by
  unfold endVoltageMenu
  split <;> rfl

@[simp] theorem endSummary_vars : (endSummary vars).vars = vars := by
  unfold endSummary
  split <;> rfl

end Vars

end Reply

/-- The three assignments of a frequency re-entry, once `MHZ` evaluates. -/
def setFrequency (stock : Stock) (mhz : Intmax) (vars : Vars) : Vars :=
  { vars with
    addHz := some (mhz * 1000000)
    littleTargetMhz := some (stock.littleStockMhz + mhz)
    bigTargetMhz := some (stock.bigStockMhz + mhz) }

/--
A value typed at a frequency re-entry prompt.

`abandon` is where a failed expansion of the accepted text leads: it leaves
the whole menu the prompt belongs to.
-/
def replyNewMhz
    (stock : Stock)
    (vars : Vars)
    (answer : Text)
    (accept abandon reject : Vars → Reply) :
    Reply :=
  let vars := { vars with newMhz := answer }
  if acceptsMhz answer then
    let vars := { vars with mhz := answer }
    match strlong answer with
    | some mhz => accept (setFrequency stock mhz vars)
    | none => abandon vars
  else
    (reject vars).saying .invalidMhz

/-- A choice at one of the two lower frequency screens. -/
def replyFchoice
    (vars : Vars)
    (answer : Text)
    (valuePrompt : Prompt)
    (keep again : Vars → Reply) :
    Reply :=
  let vars := { vars with fchoice := lowercase answer }
  if vars.fchoice = ['y'] then
    keep vars
  else if vars.fchoice = ['k'] then
    ⟨vars, [], .ask valuePrompt⟩
  else
    (again vars).saying .chooseYK

/-- The transition made by one line, read at one prompt. -/
def reply (stock : Stock) (vars : Vars) (line : Text) : Prompt → Reply
  | .additionalMhz =>
      let vars := { vars with mhz := readStrip line }
      if rejectsMhz vars.mhz then
        ⟨vars, [.invalidMhz], .ask .retryFrequency⟩
      else
        match strlong vars.mhz with
        | some mhz =>
            ⟨{ vars with
                littleTargetMhz := some (stock.littleStockMhz + mhz)
                bigTargetMhz := some (stock.bigStockMhz + mhz) },
              [.targetScreen], .ask .frequencyChoice⟩
        | none => Reply.voltageMenu vars
  | .retryFrequency =>
      ⟨vars, [.frequencyScreen], .ask .additionalMhz⟩
  | .frequencyChoice =>
      let vars := { vars with choice := lowercase (readStrip line) }
      if vars.choice = ['y'] then
        match strlong vars.mhz with
        | some mhz =>
            Reply.voltageMenu { vars with addHz := some (mhz * 1000000) }
        | none => Reply.voltageMenu vars
      else if vars.choice = ['k'] then
        ⟨vars, [.cancelled], .cancelled⟩
      else
        ⟨vars, [.chooseYK], .ask .frequencyChoice⟩
  | .voltageChoice =>
      let vars := { vars with choice := lowercase (readStrip line) }
      if vars.choice = ['y'] then
        Reply.voltageEntry vars
      else if vars.choice = ['n'] then
        Reply.summary (setStockVoltage stock vars)
      else if vars.choice = ['k'] then
        Reply.voltageFrequency vars
      else
        (Reply.endVoltageMenu vars).saying .chooseYNK
  | .littleVoltage =>
      let vars := { vars with littleInput := readStrip line }
      if isBack vars.littleInput then
        Reply.endVoltageMenu vars
      else if rejectsVoltage vars.littleInput then
        ⟨vars, [.invalidLittle], .ask .retryLittle⟩
      else
        ⟨vars, [], .ask .bigVoltage⟩
  | .retryLittle =>
      Reply.voltageEntry vars
  | .bigVoltage =>
      let vars := { vars with bigInput := readStrip line }
      if isBack vars.bigInput then
        Reply.voltageEntry vars
      else if rejectsVoltage vars.bigInput then
        ⟨vars, [.invalidBig], .ask .retryBig⟩
      else
        Reply.endVoltageMenu (setInputVoltage vars)
  | .retryBig =>
      Reply.voltageEntry vars
  | .voltageFrequencyChoice =>
      replyFchoice vars (readStrip line) .voltageNewMhz
        Reply.endVoltageMenu Reply.voltageFrequency
  | .voltageNewMhz =>
      replyNewMhz stock vars (readStrip line)
        Reply.endVoltageMenu Reply.summary Reply.voltageFrequency
  | .summaryChoice =>
      let vars := { vars with choice := lowercase (readStrip line) }
      if vars.choice = ['y'] then
        Reply.build vars
      else if vars.choice = ['k'] then
        Reply.summaryVoltage vars
      else
        (Reply.endSummary vars).saying .chooseYK
  | .summaryVoltageChoice =>
      let vars := { vars with vchoice := lowercase (readStrip line) }
      if vars.vchoice = ['y'] then
        ⟨vars, [], .ask .summaryLittle⟩
      else if vars.vchoice = ['n'] then
        Reply.endSummary (setStockVoltage stock vars)
      else if vars.vchoice = ['k'] then
        Reply.summaryFrequency vars
      else
        (Reply.summaryVoltage vars).saying .chooseYNK
  | .summaryLittle =>
      ⟨{ vars with littleInput := readStrip line }, [],
        .ask .summaryBig⟩
  | .summaryBig =>
      let vars := { vars with bigInput := readStrip line }
      if acceptsVoltages vars.littleInput vars.bigInput then
        Reply.endSummary (setInputVoltage vars)
      else
        ⟨vars, [.invalidVoltage], .ask .retryVoltage⟩
  | .retryVoltage =>
      Reply.summaryVoltage vars
  | .summaryFrequencyChoice =>
      replyFchoice vars (readStrip line) .summaryNewMhz
        Reply.endSummary Reply.summaryFrequency
  | .summaryNewMhz =>
      replyNewMhz stock vars (readStrip line)
        Reply.endSummary Reply.build Reply.summaryFrequency

/-- The session log behind one reply. -/
def Reply.extend (reply : Reply) (log : List Event) : List Event :=
  log ++ reply.printed.map fun output => .printed output reply.vars

/-- Continue from a location with the remaining lines. -/
def resume (stock : Stock) :
    List Text → Location → Vars → List Event → Flow × MenuWorld
  | lines, .cancelled, vars, log =>
      (.exit 0, ⟨vars, lines, log⟩)
  | lines, .build, vars, log =>
      (.next, ⟨vars, lines, log⟩)
  | [], .ask _, vars, log =>
      (.exit 1, ⟨vars, [], log⟩)
  | line :: rest, .ask prompt, vars, log =>
      let next := reply stock vars line prompt
      resume stock rest next.location next.vars
        (next.extend (log ++ [.answered prompt line]))

/-- Print a reply and continue from its location. -/
def resumeReply
    (stock : Stock)
    (lines : List Text)
    (log : List Event)
    (next : Reply) :
    Flow × MenuWorld :=
  resume stock lines next.location next.vars (next.extend log)

section Resume

variable (stock : Stock) (lines : List Text)
variable (vars : Vars) (log : List Event)

@[simp] theorem resume_cancelled :
    resume stock lines .cancelled vars log =
      (.exit 0, ⟨vars, lines, log⟩) := by
  cases lines <;> rfl

@[simp] theorem resume_build :
    resume stock lines .build vars log =
      (.next, ⟨vars, lines, log⟩) := by
  cases lines <;> rfl

@[simp] theorem resume_nil (prompt : Prompt) :
    resume stock [] (.ask prompt) vars log =
      (.exit 1, ⟨vars, [], log⟩) := rfl

theorem resume_cons (line : Text) (prompt : Prompt) :
    resume stock (line :: lines) (.ask prompt) vars log =
      resumeReply stock lines (log ++ [.answered prompt line])
        (reply stock vars line prompt) := rfl

end Resume

end OverclockBuilder
