import OverclockBuilder.MenuMachine

namespace OverclockBuilder

open RadixText BashText ShellFlow

/-!
# The nested loops compute the state machine

Each loop of the script is identified with the machine resumed at the prompt
of the loop head, by the loop rule: one iteration of the body, followed by the
machine, is one or more machine steps.  What follows a loop enters as a
continuation, so a loop is analysed once and not once for every menu above it.
-/

/-- The continuations a menu command is run with. -/
abbrev MenuContinuation :=
  Continuation Vars Text Event (Flow × MenuWorld)

/-! ## Reading and printing -/

section Instances

variable (prompt : Prompt) (store : Vars → Text → Vars)
variable (output : Output)

instance : Shrinks (print output) :=
  inferInstanceAs (Shrinks (emit _))

instance : Quiet (print output) :=
  inferInstanceAs (Quiet (emit _))

instance : Shrinks (ask prompt store) :=
  inferInstanceAs (Shrinks (readLine _ _))

instance : Consumes (ask prompt store) :=
  inferInstanceAs (Consumes (readLine _ _))

instance : Shrinks (pressEnter prompt) :=
  inferInstanceAs (Shrinks (ask _ _))

instance : Shrinks (askChoice prompt) :=
  inferInstanceAs (Shrinks (block _))

instance : Consumes (askChoice prompt) :=
  inferInstanceAs (Consumes (block _))

instance : Shrinks (askFchoice prompt) :=
  inferInstanceAs (Shrinks (block _))

instance : Consumes (askFchoice prompt) :=
  inferInstanceAs (Consumes (block _))

instance : Shrinks (askVchoice prompt) :=
  inferInstanceAs (Shrinks (block _))

instance : Consumes (askVchoice prompt) :=
  inferInstanceAs (Consumes (block _))

instance : Shrinks frequencyChoiceLoop :=
  inferInstanceAs (Shrinks (whileTrue _))

instance (stock : Stock) (choicePrompt valuePrompt : Prompt) :
    Shrinks
      (frequencyAgainLoop stock output choicePrompt valuePrompt) :=
  inferInstanceAs (Shrinks (whileTrue _))

instance : Shrinks voltageEntryLoop :=
  inferInstanceAs (Shrinks (whileTrue _))

instance (stock : Stock) : Shrinks (summaryVoltageLoop stock) :=
  inferInstanceAs (Shrinks (whileTrue _))

end Instances

@[simp] theorem finish_print
    (output : Output)
    (after : MenuContinuation)
    (world : MenuWorld) :
    finish (print output) after world =
      after.next
        { world with
          log := world.log ++ [.printed output world.vars] } := rfl

@[simp] theorem finish_ask_nil
    (prompt : Prompt)
    (store : Vars → Text → Vars)
    (after : MenuContinuation)
    (vars : Vars)
    (log : List Event) :
    finish (ask prompt store) after ⟨vars, [], log⟩ =
      after.exit 1 ⟨vars, [], log⟩ := rfl

@[simp] theorem finish_ask_cons
    (prompt : Prompt)
    (store : Vars → Text → Vars)
    (after : MenuContinuation)
    (vars : Vars)
    (line : Text)
    (rest : List Text)
    (log : List Event) :
    finish (ask prompt store) after ⟨vars, line :: rest, log⟩ =
      after.next
        ⟨store vars (readStrip line), rest,
          log ++ [.answered prompt line]⟩ := rfl

/-! ## Where a loop leads -/

/-- Print a screen and continue from its prompt. -/
def resumeAt
    (stock : Stock)
    (screen : Vars → Reply)
    (world : MenuWorld) :
    Flow × MenuWorld :=
  resumeReply stock world.input world.log (screen world.vars)

/--
The screen behind a loop, and the screen behind the top-level menu it belongs
to, which a failed expansion abandons.
-/
structure Leads
    (stock : Stock)
    (after : MenuContinuation)
    (next abandon : Vars → Reply) : Prop where
  next : after.next = resumeAt stock next
  discard : after.discard = resumeAt stock abandon
  exit : after.exit = fun status world => (.exit status, world)

/-- Saying something in front of a screen is logging it first. -/
theorem resumeReply_saying
    (stock : Stock)
    (lines : List Text)
    (log : List Event)
    (message : Output)
    (next : Reply) :
    resumeReply stock lines log (next.saying message) =
      resumeReply stock lines
        (log ++ [.printed message next.vars]) next := by
  simp [resumeReply, Reply.saying, Reply.extend]

/-! ## The loops -/

/-- The `Pilihan [K/Y]` loop of the frequency menu. -/
theorem finish_frequencyChoiceLoop
    {stock : Stock}
    {after : MenuContinuation}
    (leads : Leads stock after Reply.voltageMenu Reply.voltageMenu)
    (world : MenuWorld) :
    finish frequencyChoiceLoop after world =
      resume stock world.input (.ask .frequencyChoice)
        world.vars world.log := by
  obtain ⟨next, discard, exit⟩ := leads
  apply finish_whileTrue
    (fun world =>
      resume stock world.input (.ask .frequencyChoice)
        world.vars world.log)
  rintro ⟨vars, _ | ⟨line, rest⟩, log⟩
  · simp [askChoice, Continuation.inLoop, exit]
  · rw [resume_cons]
    by_cases yes : lowercase (readStrip line) = ['y']
    · cases value : strlong vars.mhz <;>
        simp [askChoice, Continuation.inLoop, finish_expand, setAddHz,
          reply, next, discard, resumeAt, yes, value]
    · by_cases back : lowercase (readStrip line) = ['k'] <;>
        simp [askChoice, Continuation.inLoop, exit, reply,
          resumeReply, Reply.extend, yes, back]

/-- The frequency screen below the voltage menu and below the summary. -/
theorem finish_frequencyAgainLoop
    {stock : Stock}
    {after : MenuContinuation}
    {screen : Output}
    {choicePrompt valuePrompt : Prompt}
    {keep abandon : Vars → Reply}
    (leads : Leads stock after keep abandon)
    (choiceReply :
      ∀ vars line,
        reply stock vars line choicePrompt =
          replyFchoice vars (readStrip line) valuePrompt keep
            fun vars => ⟨vars, [screen], .ask choicePrompt⟩)
    (valueReply :
      ∀ vars line,
        reply stock vars line valuePrompt =
          replyNewMhz stock vars (readStrip line) keep abandon
            fun vars => ⟨vars, [screen], .ask choicePrompt⟩)
    (world : MenuWorld) :
    finish
        (frequencyAgainLoop stock screen choicePrompt valuePrompt)
        after world =
      resumeAt stock
        (fun vars => ⟨vars, [screen], .ask choicePrompt⟩) world := by
  obtain ⟨next, discard, exit⟩ := leads
  apply finish_whileTrue
    (resumeAt stock fun vars => ⟨vars, [screen], .ask choicePrompt⟩)
  rintro ⟨vars, _ | ⟨line, rest⟩, log⟩
  · simp [askFchoice, Continuation.inLoop, exit, resumeAt,
      resumeReply, Reply.extend]
  · have shown :
        resumeAt stock
            (fun vars => ⟨vars, [screen], .ask choicePrompt⟩)
            ⟨vars, line :: rest, log⟩ =
          resumeReply stock rest
            (log ++ [.printed screen vars] ++
              [.answered choicePrompt line])
            (reply stock vars line choicePrompt) := by
      simp [resumeAt, resumeReply, Reply.extend, resume_cons]
    rw [shown, choiceReply, replyFchoice]
    by_cases yes : lowercase (readStrip line) = ['y']
    · simp [askFchoice, Continuation.inLoop, next, resumeAt, yes]
    · by_cases again : lowercase (readStrip line) = ['k']
      · -- the value prompt reads a second line in the same iteration
        rcases rest with _ | ⟨value, rest⟩
        · simp [askFchoice, Continuation.inLoop, exit,
            resumeReply, Reply.extend, again]
        · have asked :
              resumeReply stock (value :: rest)
                  (log ++ [.printed screen vars] ++
                    [.answered choicePrompt line])
                  ⟨{ vars with fchoice := ['k'] }, [],
                    .ask valuePrompt⟩ =
                resumeReply stock rest
                  (log ++ [.printed screen vars] ++
                    [.answered choicePrompt line] ++
                    [.answered valuePrompt value])
                  (reply stock { vars with fchoice := ['k'] }
                    value valuePrompt) := by
            simp [resumeReply, Reply.extend, resume_cons]
          simp only [again]
          rw [if_neg (by decide), if_pos trivial, asked, valueReply,
            replyNewMhz]
          by_cases accepted : acceptsMhz (readStrip value) = true
          · cases number : strlong (readStrip value) <;>
              simp [askFchoice, Continuation.inLoop, finish_expand,
                setAddHz, setLittleTargetMhz, setBigTargetMhz,
                setFrequency, next, discard, resumeAt, again, accepted,
                number]
          · simp [askFchoice, Continuation.inLoop, resumeAt,
              resumeReply_saying, again, accepted]
      · simp [askFchoice, Continuation.inLoop, resumeAt,
          resumeReply_saying, yes, again]

/-- `PENGATURAN VOLTAGE` -/
theorem finish_voltageEntryLoop
    {stock : Stock}
    {after : MenuContinuation}
    {abandon : Vars → Reply}
    (leads : Leads stock after Reply.endVoltageMenu abandon)
    (world : MenuWorld) :
    finish voltageEntryLoop after world =
      resumeAt stock Reply.voltageEntry world := by
  obtain ⟨next, discard, exit⟩ := leads
  apply finish_whileTrue (resumeAt stock Reply.voltageEntry)
  rintro ⟨vars, _ | ⟨line, rest⟩, log⟩
  · simp [Continuation.inLoop, exit, resumeAt, resumeReply,
      Reply.voltageEntry, Reply.extend]
  · have shown :
        resumeAt stock Reply.voltageEntry ⟨vars, line :: rest, log⟩ =
          resumeReply stock rest
            (log ++ [.printed .voltageEntryScreen vars] ++
              [.answered .littleVoltage line])
            (reply stock vars line .littleVoltage) := by
      simp [resumeAt, resumeReply, Reply.voltageEntry, Reply.extend,
        resume_cons]
    rw [shown, reply]
    by_cases back : isBack (readStrip line) = true
    · simp [Continuation.inLoop, next, resumeAt, back]
    · by_cases rejected : rejectsVoltage (readStrip line) = true
      · rcases rest with _ | ⟨enter, rest⟩ <;>
          simp [Continuation.inLoop, exit, pressEnter, resumeAt,
            resumeReply, Reply.extend, resume_cons, reply, back,
            rejected]
      · rcases rest with _ | ⟨big, rest⟩
        · simp [Continuation.inLoop, exit, resumeReply, Reply.extend,
            back, rejected]
        · by_cases bigBack : isBack (readStrip big) = true
          · simp [Continuation.inLoop, resumeAt, resumeReply,
              Reply.extend, resume_cons, reply, back, rejected,
              bigBack]
          · by_cases bigRejected :
                rejectsVoltage (readStrip big) = true
            · rcases rest with _ | ⟨enter, rest⟩ <;>
                simp [Continuation.inLoop, exit, pressEnter, resumeAt,
                  resumeReply, Reply.extend, resume_cons, reply, back,
                  rejected, bigBack, bigRejected]
            · simp [Continuation.inLoop, next, resumeAt, resumeReply,
                Reply.extend, resume_cons, reply, back, rejected,
                bigBack, bigRejected]

/-- `VOLTAGE` below the summary -/
theorem finish_summaryVoltageLoop
    {stock : Stock}
    {after : MenuContinuation}
    (leads : Leads stock after Reply.endSummary Reply.build)
    (world : MenuWorld) :
    finish (summaryVoltageLoop stock) after world =
      resumeAt stock Reply.summaryVoltage world := by
  obtain ⟨next, discard, exit⟩ := leads
  apply finish_whileTrue (resumeAt stock Reply.summaryVoltage)
  rintro ⟨vars, _ | ⟨line, rest⟩, log⟩
  · simp [askVchoice, Continuation.inLoop, exit, resumeAt, resumeReply,
      Reply.summaryVoltage, Reply.extend]
  · have shown :
        resumeAt stock Reply.summaryVoltage
            ⟨vars, line :: rest, log⟩ =
          resumeReply stock rest
            (log ++ [.printed .summaryVoltageScreen vars] ++
              [.answered .summaryVoltageChoice line])
            (reply stock vars line .summaryVoltageChoice) := by
      simp [resumeAt, resumeReply, Reply.summaryVoltage, Reply.extend,
        resume_cons]
    rw [shown, reply]
    by_cases yes : lowercase (readStrip line) = ['y']
    · rcases rest with _ | ⟨little, rest⟩
      · simp [askVchoice, Continuation.inLoop, exit, resumeReply,
          Reply.extend, yes]
      · rcases rest with _ | ⟨big, rest⟩
        · simp [askVchoice, Continuation.inLoop, exit, resumeReply,
            Reply.extend, resume_cons, reply, yes]
        · by_cases accepted :
              acceptsVoltages (readStrip little) (readStrip big) = true
          · simp [askVchoice, Continuation.inLoop, next, resumeAt,
              resumeReply, Reply.extend, resume_cons, reply, yes,
              accepted]
          · rcases rest with _ | ⟨enter, rest⟩ <;>
              simp [askVchoice, Continuation.inLoop, exit, pressEnter,
                resumeAt, resumeReply, Reply.extend, resume_cons, reply,
                yes, accepted]
    · by_cases no : lowercase (readStrip line) = ['n']
      · simp [askVchoice, Continuation.inLoop, next, resumeAt, no]
      · by_cases again : lowercase (readStrip line) = ['k']
        · have inner (after : MenuContinuation)
              (leads : Leads stock after Reply.endSummary Reply.build) :=
            @finish_frequencyAgainLoop stock after
              .summaryFrequencyScreen .summaryFrequencyChoice
              .summaryNewMhz Reply.endSummary Reply.build leads
              (fun _ _ => rfl) (fun _ _ => rfl)
          simp [askVchoice, Continuation.inLoop, again]
          rw [inner]
          · simp [resumeAt, Reply.summaryFrequency]
          · refine ⟨?_, discard, exit⟩
            funext reached
            simp [next]
        · simp [askVchoice, Continuation.inLoop, resumeAt,
            resumeReply_saying, yes, no, again]

/-! ## The menus -/

/-- `MENU SUMMARY` -/
theorem finish_summaryMenu
    {stock : Stock}
    {after : MenuContinuation}
    (leads : Leads stock after Reply.build Reply.build)
    (world : MenuWorld) :
    finish (summaryMenu stock) after world =
      resumeAt stock Reply.summary world := by
  obtain ⟨next, discard, exit⟩ := leads
  apply finish_whileTrue (resumeAt stock Reply.summary)
  rintro ⟨vars, _ | ⟨line, rest⟩, log⟩
  · simp [askChoice, Continuation.inLoop, exit, resumeAt, resumeReply,
      Reply.summary, Reply.extend]
  · have shown :
        resumeAt stock Reply.summary ⟨vars, line :: rest, log⟩ =
          resumeReply stock rest
            (log ++ [.printed .summaryScreen vars] ++
              [.answered .summaryChoice line])
            (reply stock vars line .summaryChoice) := by
      simp [resumeAt, resumeReply, Reply.summary, Reply.extend,
        resume_cons]
    rw [shown, reply]
    by_cases yes : lowercase (readStrip line) = ['y']
    · simp [askChoice, Continuation.inLoop, next, resumeAt, yes]
    · by_cases back : lowercase (readStrip line) = ['k']
      · simp [askChoice, Continuation.inLoop, back]
        rw [finish_summaryVoltageLoop]
        · simp [resumeAt]
        · refine ⟨?_, discard, exit⟩
          funext reached
          by_cases built : reached.vars.choice = ['y'] <;>
            simp [next, resumeAt, Reply.endSummary, built]
      · simp [askChoice, Continuation.inLoop, resumeAt,
          resumeReply_saying, Reply.endSummary, yes, back]

/-- `MENU VOLTAGE` -/
theorem finish_voltageMenu
    {stock : Stock}
    {after : MenuContinuation}
    (leads : Leads stock after Reply.summary Reply.summary)
    (world : MenuWorld) :
    finish (voltageMenu stock) after world =
      resumeAt stock Reply.voltageMenu world := by
  obtain ⟨next, discard, exit⟩ := leads
  apply finish_whileTrue (resumeAt stock Reply.voltageMenu)
  rintro ⟨vars, _ | ⟨line, rest⟩, log⟩
  · simp [askChoice, Continuation.inLoop, exit, resumeAt, resumeReply,
      Reply.voltageMenu, Reply.extend]
  · have shown :
        resumeAt stock Reply.voltageMenu ⟨vars, line :: rest, log⟩ =
          resumeReply stock rest
            (log ++ [.printed .voltageScreen vars] ++
              [.answered .voltageChoice line])
            (reply stock vars line .voltageChoice) := by
      simp [resumeAt, resumeReply, Reply.voltageMenu, Reply.extend,
        resume_cons]
    -- the test of `CHOICE` behind the `case`
    have ended :
        finish
            (block [
              branch
                (fun vars =>
                  vars.choice = ['y'] || vars.choice = ['n'])
                breakLoop
                skip])
            (after.inLoop (resumeAt stock Reply.voltageMenu)) =
          resumeAt stock Reply.endVoltageMenu := by
      funext reached
      by_cases done :
          reached.vars.choice = ['y'] ∨ reached.vars.choice = ['n'] <;>
        simp [Continuation.inLoop, next, resumeAt,
          Reply.endVoltageMenu, done]
    rw [shown, reply]
    by_cases yes : lowercase (readStrip line) = ['y']
    · simp [askChoice, Continuation.inLoop, yes]
      rw [@finish_voltageEntryLoop stock _ Reply.summary]
      · simp [resumeAt]
      · exact ⟨ended, discard, exit⟩
    · by_cases no : lowercase (readStrip line) = ['n']
      · simp [askChoice, Continuation.inLoop, next, resumeAt, no]
      · by_cases back : lowercase (readStrip line) = ['k']
        · have inner (after : MenuContinuation)
              (leads :
                Leads stock after Reply.endVoltageMenu Reply.summary) :=
            @finish_frequencyAgainLoop stock after
              .voltageFrequencyScreen .voltageFrequencyChoice
              .voltageNewMhz Reply.endVoltageMenu Reply.summary leads
              (fun _ _ => rfl) (fun _ _ => rfl)
          simp [askChoice, Continuation.inLoop, back]
          rw [inner]
          · simp [resumeAt, Reply.voltageFrequency]
          · exact ⟨ended, discard, exit⟩
        · simp [askChoice, Continuation.inLoop, resumeAt,
            resumeReply_saying, Reply.endVoltageMenu, yes, no, back]

/-- `MENU FREQUENCY` -/
theorem finish_frequencyMenu
    {stock : Stock}
    {after : MenuContinuation}
    (leads : Leads stock after Reply.voltageMenu Reply.voltageMenu)
    (world : MenuWorld) :
    finish (frequencyMenu stock) after world =
      resumeAt stock
        (fun vars => ⟨vars, [.frequencyScreen], .ask .additionalMhz⟩)
        world := by
  obtain ⟨next, discard, exit⟩ := leads
  apply finish_whileTrue
    (resumeAt stock
      fun vars => ⟨vars, [.frequencyScreen], .ask .additionalMhz⟩)
  rintro ⟨vars, _ | ⟨line, rest⟩, log⟩
  · simp [Continuation.inLoop, exit, resumeAt, resumeReply,
      Reply.extend]
  · have shown :
        resumeAt stock
            (fun vars =>
              ⟨vars, [.frequencyScreen], .ask .additionalMhz⟩)
            ⟨vars, line :: rest, log⟩ =
          resumeReply stock rest
            (log ++ [.printed .frequencyScreen vars] ++
              [.answered .additionalMhz line])
            (reply stock vars line .additionalMhz) := by
      simp [resumeAt, resumeReply, Reply.extend, resume_cons]
    rw [shown, reply]
    by_cases rejected : rejectsMhz (readStrip line) = true
    · rcases rest with _ | ⟨enter, rest⟩ <;>
        simp [Continuation.inLoop, exit, pressEnter, resumeAt,
          resumeReply, Reply.extend, resume_cons, reply, rejected]
    · cases number : strlong (readStrip line) with
      | none =>
          simp [Continuation.inLoop, finish_expand, setLittleTargetMhz,
            discard, resumeAt, rejected, number]
      | some mhz =>
          simp [Continuation.inLoop, finish_expand, setLittleTargetMhz,
            setBigTargetMhz, number, rejected]
          rw [@finish_frequencyChoiceLoop stock]
          · simp [resumeReply, Reply.extend]
          · refine ⟨?_, discard, exit⟩
            funext reached
            simp [next]

/--
The script's three menus are the machine started at the first frequency
prompt.
-/
theorem menus_eq_resume
    (stock : Stock)
    (world : MenuWorld) :
    menus stock world =
      resume stock world.input (.ask .additionalMhz) world.vars
        (world.log ++ [.printed .frequencyScreen world.vars]) := by
  rw [← finish_done (menus stock) world, menus, finish_topLevel_cons]
  have summary :
      finish (topLevel [summaryMenu stock]) .done =
        resumeAt stock Reply.summary := by
    funext reached
    rw [finish_topLevel_cons]
    refine finish_summaryMenu ⟨?_, ?_, rfl⟩ reached <;>
      · funext built
        simp [Continuation.done, resumeAt, resumeReply, Reply.build,
          Reply.extend]
  have voltage :
      finish (topLevel [voltageMenu stock, summaryMenu stock]) .done =
        resumeAt stock Reply.voltageMenu := by
    funext reached
    rw [finish_topLevel_cons]
    exact finish_voltageMenu ⟨summary, summary, rfl⟩ reached
  rw [finish_frequencyMenu ⟨voltage, voltage, rfl⟩]
  simp [resumeAt, resumeReply, Reply.extend]

end OverclockBuilder
