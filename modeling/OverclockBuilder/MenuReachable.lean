import OverclockBuilder.MenuRefinement

namespace OverclockBuilder

open RadixText BashText ShellFlow

/-!
# Reachable menu states

`Reachable` collects the states of the machine at its reads and at its two
ends.  Every run of the script ends in one of them, so an invariant of
`Reachable` is a statement about every session.
-/

/-- How the menu phase ends when the input stops at a location. -/
def Location.flow : Location → Flow
  | .ask _ => .exit 1
  | .cancelled => .exit 0
  | .build => .next

/-- The locations, variables and sessions that answered lines lead to. -/
inductive Reachable (stock : Stock) :
    Location → Vars → List Event → Prop where
  | start :
      Reachable stock (.ask .additionalMhz) (Vars.initial stock)
        [.printed .frequencyScreen (Vars.initial stock)]
  | answer
      {prompt : Prompt}
      {vars : Vars}
      {log : List Event}
      (line : Text)
      (reached : Reachable stock (.ask prompt) vars log) :
      Reachable stock
        (reply stock vars line prompt).location
        (reply stock vars line prompt).vars
        ((reply stock vars line prompt).extend
          (log ++ [.answered prompt line]))

/-- Continuing from a reachable state ends in a reachable state. -/
theorem resume_reachable
    {stock : Stock}
    {location : Location}
    {vars : Vars}
    {log : List Event}
    (reached : Reachable stock location vars log)
    (lines : List Text) :
    ∃ last,
      (resume stock lines location vars log).1 = last.flow ∧
        Reachable stock last
          (resume stock lines location vars log).2.vars
          (resume stock lines location vars log).2.log := by
  induction lines generalizing location vars log with
  | nil =>
      refine ⟨location, ?_, ?_⟩ <;>
        cases location <;>
        first
          | rfl
          | exact reached
  | cons line rest inductionHypothesis =>
      cases location with
      | ask prompt =>
          exact inductionHypothesis (reached.answer line)
      | cancelled =>
          exact ⟨.cancelled, rfl, reached⟩
      | build =>
          exact ⟨.build, rfl, reached⟩

/-- The whole menu phase is the machine from the first prompt. -/
theorem runMenus_eq_resume
    (stock : Stock)
    (lines : List Text) :
    runMenus stock lines =
      resume stock lines (.ask .additionalMhz) (Vars.initial stock)
        [.printed .frequencyScreen (Vars.initial stock)] := by
  rw [runMenus, menus_eq_resume]
  rfl

/-- Every run of the menus terminates, in a reachable state. -/
theorem runMenus_reachable
    (stock : Stock)
    (lines : List Text) :
    ∃ last,
      (runMenus stock lines).1 = last.flow ∧
        Reachable stock last
          (runMenus stock lines).2.vars
          (runMenus stock lines).2.log := by
  rw [runMenus_eq_resume]
  exact resume_reachable .start lines

/-! ## The lines of a session -/

/-- The line an event consumed. -/
def Event.line? : Event → Option Text
  | .printed _ _ => none
  | .answered _ line => some line

/-- The lines a session consumed, in order. -/
def answeredLines (log : List Event) : List Text :=
  log.filterMap Event.line?

@[simp] theorem answeredLines_append (first second : List Event) :
    answeredLines (first ++ second) =
      answeredLines first ++ answeredLines second :=
  List.filterMap_append

@[simp] theorem answeredLines_extend (next : Reply) (log : List Event) :
    answeredLines (next.extend log) = answeredLines log := by
  have printed :
      answeredLines
          (next.printed.map fun output => .printed output next.vars) =
        [] := by
    simp [answeredLines, Event.line?]
  rw [Reply.extend, answeredLines_append, printed, List.append_nil]

private theorem answeredLines_resume
    (stock : Stock)
    (lines : List Text)
    (location : Location)
    (vars : Vars)
    (log : List Event) :
    answeredLines (resume stock lines location vars log).2.log ++
        (resume stock lines location vars log).2.input =
      answeredLines log ++ lines := by
  induction lines generalizing location vars log with
  | nil =>
      cases location <;> rfl
  | cons line rest inductionHypothesis =>
      cases location with
      | ask prompt =>
          rw [resume_cons, resumeReply, inductionHypothesis,
            answeredLines_extend, answeredLines_append,
            List.append_assoc]
          rfl
      | cancelled | build =>
          rfl

/-- The session and the lines left over are the lines fed to the script. -/
theorem answeredLines_runMenus
    (stock : Stock)
    (lines : List Text) :
    answeredLines (runMenus stock lines).2.log ++
        (runMenus stock lines).2.input =
      lines := by
  rw [runMenus_eq_resume, answeredLines_resume]
  rfl

/-! ## The summary screen -/

/-- The summary is shown exactly in front of its own prompt. -/
inductive Reply.ShowsSummary (next : Reply) : Prop where
  | shown
      (said : List Output)
      (location : next.location = .ask .summaryChoice)
      (printed : next.printed = said ++ [.summaryScreen])
      (fresh : .summaryScreen ∉ said)
  | elsewhere
      (location : next.location ≠ .ask .summaryChoice)
      (printed : .summaryScreen ∉ next.printed)

namespace Reply

theorem summary_showsSummary (vars : Vars) :
    (summary vars).ShowsSummary :=
  .shown [] rfl rfl List.not_mem_nil

theorem saying_showsSummary
    {next : Reply}
    {message : Output}
    (shows : next.ShowsSummary)
    (other : message ≠ .summaryScreen) :
    (next.saying message).ShowsSummary := by
  cases shows with
  | shown said location printed fresh =>
      refine .shown (message :: said) location ?_ ?_
      · rw [saying, printed, List.cons_append]
      · simp [Ne.symm other, fresh]
  | elsewhere location printed =>
      refine .elsewhere location ?_
      simp [saying, Ne.symm other, printed]

theorem endVoltageMenu_showsSummary (vars : Vars) :
    (endVoltageMenu vars).ShowsSummary := by
  unfold endVoltageMenu
  split
  · exact summary_showsSummary vars
  · exact .elsewhere (by simp [voltageMenu]) (by simp [voltageMenu])

theorem endSummary_showsSummary (vars : Vars) :
    (endSummary vars).ShowsSummary := by
  unfold endSummary
  split
  · exact .elsewhere (by simp [build]) (by simp [build])
  · exact summary_showsSummary vars

end Reply

/-- Every reply shows the summary exactly when it asks the summary's prompt. -/
theorem reply_showsSummary
    (stock : Stock)
    (vars : Vars)
    (line : Text)
    (prompt : Prompt) :
    (reply stock vars line prompt).ShowsSummary := by
  have other
      (screen : Output)
      (different : .summaryScreen ∉ [screen])
      (place : Location)
      (away : place ≠ .ask .summaryChoice)
      (after : Vars) :
      Reply.ShowsSummary ⟨after, [screen], place⟩ :=
    .elsewhere away different
  have silent
      (place : Location)
      (away : place ≠ .ask .summaryChoice)
      (after : Vars) :
      Reply.ShowsSummary ⟨after, [], place⟩ :=
    .elsewhere away List.not_mem_nil
  cases prompt <;>
    simp only [reply, replyFchoice, replyNewMhz] <;>
    (repeat' split) <;>
    first
      | exact Reply.summary_showsSummary _
      | exact Reply.endVoltageMenu_showsSummary _
      | exact Reply.endSummary_showsSummary _
      | exact Reply.saying_showsSummary
          (Reply.endVoltageMenu_showsSummary _) (by decide)
      | exact Reply.saying_showsSummary
          (Reply.endSummary_showsSummary _) (by decide)
      | exact other _ (by decide) _ (by decide) _
      | exact silent _ (by decide) _
      | exact Reply.saying_showsSummary
          (other _ (by decide) _ (by decide) _) (by decide)

/-- Whatever the log shows as a summary was the state at its prompt, earlier. -/
theorem summaryScreen_reachable
    {stock : Stock}
    {location : Location}
    {vars shown : Vars}
    {log : List Event}
    (reached : Reachable stock location vars log)
    (printed : .printed .summaryScreen shown ∈ log) :
    ∃ earlier,
      earlier <+: log ∧
        Reachable stock (.ask .summaryChoice) shown earlier := by
  induction reached with
  | start =>
      simp at printed
  | @answer prompt before log line reached inductionHypothesis =>
      have shows := reply_showsSummary stock before line prompt
      have step := reached.answer line
      simp only [Reply.extend, List.mem_append, List.mem_singleton,
        reduceCtorEq, or_false, List.mem_map] at printed
      rcases printed with shownBefore | ⟨output, member, same⟩
      · obtain ⟨earlier, before, atSummary⟩ := inductionHypothesis shownBefore
        refine ⟨earlier, before.trans ?_, atSummary⟩
        simp [Reply.extend, List.append_assoc]
      · simp only [Event.printed.injEq] at same
        obtain ⟨rfl, rfl⟩ := same
        cases shows with
        | shown said location printed fresh =>
            rw [location] at step
            exact ⟨_, List.prefix_rfl, step⟩
        | elsewhere location printed =>
            exact (printed member).elim

/-- At the summary's prompt, the summary of the current values is on screen. -/
theorem summaryChoice_shown
    {stock : Stock}
    {vars : Vars}
    {log : List Event}
    (reached : Reachable stock (.ask .summaryChoice) vars log) :
    ∃ earlier, log = earlier ++ [.printed .summaryScreen vars] := by
  generalize place : Location.ask .summaryChoice = location at reached
  cases reached with
  | start =>
      cases place
  | @answer prompt before log line reached =>
      cases reply_showsSummary stock before line prompt with
      | shown said location printed fresh =>
          refine ⟨log ++ [.answered prompt line] ++
            said.map fun output =>
              .printed output (reply stock before line prompt).vars, ?_⟩
          simp [Reply.extend, printed]
      | elsewhere location printed =>
          exact (location place.symm).elim

end OverclockBuilder
