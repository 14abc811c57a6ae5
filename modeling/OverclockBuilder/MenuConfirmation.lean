import OverclockBuilder.ApplyStage
import OverclockBuilder.MenuFrequency

namespace OverclockBuilder

open RadixText BashText ShellFlow

/-!
# How the menus reach the build

`CHOICE` is `k` everywhere below the summary, so the build is entered in two
ways: by `Y` at the summary, or by a number of MHz typed below the summary that
`$(( ))` cannot evaluate, which abandons the whole summary loop.
-/

/-- The prompts below the summary. -/
def Prompt.belowSummary : Prompt → Bool
  | .summaryVoltageChoice => true
  | .summaryLittle => true
  | .summaryBig => true
  | .retryVoltage => true
  | .summaryFrequencyChoice => true
  | .summaryNewMhz => true
  | _ => false

/-- The locations below the summary. -/
def Location.belowSummary : Location → Bool
  | .ask prompt => prompt.belowSummary
  | _ => false

/-- What one line does to the way into the build. -/
inductive SummaryStep
    (vars : Vars)
    (line : Text)
    (prompt : Prompt)
    (next : Reply) : Prop where
  | elsewhere
      (above : next.location.belowSummary = false)
      (unbuilt : next.location ≠ .build)
  | descended
      (unbuilt : next.location ≠ .build)
      (choice : next.vars.choice = ['k'])
  | stayed
      (below : prompt.belowSummary = true)
      (choice : next.vars.choice = vars.choice)
      (unbuilt : next.location = .build → vars.choice = ['y'])
  | confirmed
      (asked : prompt = .summaryChoice)
      (yes : lowercase (readStrip line) = ['y'])
      (built : next = Reply.build { vars with choice := ['y'] })
  | abandoned
      (asked : prompt = .summaryNewMhz)
      (taken : prompt.accepts (readStrip line) = true)
      (unread : strlong (readStrip line) = none)
      (location : next.location = .build)
      (printed : next.printed = [])

private theorem ask_ne_build (prompt : Prompt) :
    Location.ask prompt ≠ .build := by
  intro same
  cases same

private theorem cancelled_ne_build : Location.cancelled ≠ .build := by
  intro same
  cases same

theorem endSummary_stayed
    {vars after : Vars}
    {line : Text}
    {prompt : Prompt}
    (below : prompt.belowSummary = true)
    (choice : after.choice = vars.choice) :
    SummaryStep vars line prompt (Reply.endSummary after) := by
  refine .stayed below (by simp [choice]) ?_
  unfold Reply.endSummary
  split
  · rename_i yes
    intro _
    rw [← choice, yes]
  · intro built
    cases built

/-- The summary step of every reply. -/
theorem reply_summaryStep
    (stock : Stock)
    (vars : Vars)
    (line : Text)
    (prompt : Prompt) :
    SummaryStep vars line prompt (reply stock vars line prompt) := by
  have endVoltageMenu (after : Vars) :
      (Reply.endVoltageMenu after).location.belowSummary = false ∧
        (Reply.endVoltageMenu after).location ≠ .build := by
    unfold Reply.endVoltageMenu
    split
    · exact ⟨rfl, ask_ne_build _⟩
    · exact ⟨rfl, ask_ne_build _⟩
  cases prompt with
  | summaryChoice =>
      by_cases yes : lowercase (readStrip line) = ['y']
      · exact .confirmed rfl yes (by simp [reply, yes])
      · by_cases back : lowercase (readStrip line) = ['k']
        · refine .descended ?_ ?_ <;>
            simp [reply, back, Reply.summaryVoltage]
        · refine .elsewhere ?_ ?_ <;>
            simp [reply, yes, back, Reply.endSummary, Reply.saying,
              Reply.summary, Location.belowSummary, Prompt.belowSummary]
  | summaryNewMhz =>
      simp only [reply, replyNewMhz]
      cases taken : acceptsMhz (readStrip line) with
      | false =>
          refine .stayed rfl ?_ ?_
          · rfl
          · intro built
            cases built
      | true =>
          cases read : strlong (readStrip line) with
          | some mhz =>
              exact endSummary_stayed rfl rfl
          | none =>
              exact .abandoned rfl taken read rfl rfl
  | summaryVoltageChoice | summaryLittle | summaryBig | retryVoltage
    | summaryFrequencyChoice =>
      simp only [reply, replyFchoice]
      (repeat' split) <;>
        first
          | exact endSummary_stayed rfl rfl
          | exact .stayed rfl rfl fun built => (ask_ne_build _ built).elim
  | _ =>
      simp only [reply, replyFchoice, replyNewMhz]
      (repeat' split) <;>
        first
          | exact .elsewhere (endVoltageMenu _).1 (endVoltageMenu _).2
          | exact .elsewhere rfl (ask_ne_build _)
          | exact .elsewhere rfl cancelled_ne_build

/-! ## The way into the build -/

/-- No number of MHz typed below the summary failed to evaluate. -/
def SummaryReadable (log : List Event) : Prop :=
  ∀ entry ∈ entries log,
    entry.1 = .summaryNewMhz → ¬ Unreadable entry.2

/-- The build was confirmed at a summary that showed the current values. -/
def BuiltByYes (vars : Vars) (log : List Event) : Prop :=
  ∃ earlier shown line,
    log =
        earlier ++ [.printed .summaryScreen shown,
          .answered .summaryChoice line] ∧
      lowercase (readStrip line) = ['y'] ∧
        vars = { shown with choice := ['y'] }

/-- The build was entered by abandoning the summary. -/
def BuiltByAbandoning (log : List Event) : Prop :=
  ∃ earlier line,
    log = earlier ++ [.answered .summaryNewMhz line] ∧
      Prompt.accepts .summaryNewMhz (readStrip line) = true ∧
        Unreadable (readStrip line)

/-- How every location is reached. -/
def SummaryInvariant
    (vars : Vars)
    (log : List Event) : Location → Prop
  | .ask prompt =>
      (prompt.belowSummary = true → vars.choice = ['k']) ∧
        SummaryReadable log
  | .cancelled => SummaryReadable log
  | .build =>
      BuiltByYes vars log ∧ SummaryReadable log ∨ BuiltByAbandoning log

theorem summaryReadable_extend (next : Reply) (log : List Event) :
    SummaryReadable (next.extend log) ↔ SummaryReadable log := by
  rw [SummaryReadable, entries_extend, SummaryReadable]

theorem summaryReadable_answered
    {log : List Event}
    {prompt : Prompt}
    {line : Text}
    (readable : SummaryReadable log)
    (fine :
      prompt = .summaryNewMhz →
        prompt.accepts (readStrip line) = true →
          ¬ Unreadable (readStrip line)) :
    SummaryReadable (log ++ [.answered prompt line]) := by
  intro entry member asked
  rw [entries_append, List.mem_append] at member
  rcases member with earlier | now
  · exact readable entry earlier asked
  · cases taken : prompt.accepts (readStrip line) with
    | false =>
        simp [entries_refused taken] at now
    | true =>
        rw [entries_accepted taken, List.mem_singleton] at now
        subst now
        exact fine asked taken

/-- A location above the build needs the readable session only. -/
theorem summaryInvariant_of_unbuilt
    {vars : Vars}
    {log : List Event}
    {location : Location}
    (unbuilt : location ≠ .build)
    (choice : location.belowSummary = true → vars.choice = ['k'])
    (readable : SummaryReadable log) :
    SummaryInvariant vars log location := by
  cases location with
  | ask prompt =>
      exact ⟨choice, readable⟩
  | cancelled =>
      exact readable
  | build =>
      exact (unbuilt rfl).elim

/-- The summary invariant holds in every session. -/
theorem reachable_summaryInvariant
    {stock : Stock}
    {location : Location}
    {vars : Vars}
    {log : List Event}
    (reached : Reachable stock location vars log) :
    SummaryInvariant vars log location := by
  induction reached with
  | start =>
      refine ⟨fun below => Bool.noConfusion below, ?_⟩
      simp [SummaryReadable, entries, Event.entry?]
  | @answer prompt before earlier line reached inductionHypothesis =>
      obtain ⟨choice, readable⟩ := inductionHypothesis
      -- only an unreadable number below the summary spoils the session
      by_cases unreadable :
          prompt = .summaryNewMhz ∧
            prompt.accepts (readStrip line) = true ∧
              Unreadable (readStrip line)
      · obtain ⟨rfl, taken, unread⟩ := unreadable
        have step := (strlong_eq_none_iff_of_accepts taken).mpr unread
        have next :
            reply stock before line .summaryNewMhz =
              Reply.build
                { before with
                  newMhz := readStrip line
                  mhz := readStrip line } := by
          have accepted : acceptsMhz (readStrip line) = true := taken
          simp [reply, replyNewMhz, accepted, step]
        rw [next]
        refine .inr ⟨earlier, line, ?_, taken, unread⟩
        simp [Reply.extend, Reply.build]
      · have stillReadable :
            SummaryReadable
              ((reply stock before line prompt).extend
                (earlier ++ [.answered prompt line])) := by
          rw [summaryReadable_extend]
          refine summaryReadable_answered readable ?_
          intro asked taken unread
          exact unreadable ⟨asked, taken, unread⟩
        cases reply_summaryStep stock before line prompt with
        | elsewhere above unbuilt =>
            refine summaryInvariant_of_unbuilt unbuilt ?_ stillReadable
            intro below
            rw [above] at below
            cases below
        | descended unbuilt nextChoice =>
            exact summaryInvariant_of_unbuilt unbuilt
              (fun _ => nextChoice) stillReadable
        | stayed below nextChoice unbuilt =>
            refine summaryInvariant_of_unbuilt ?_ ?_ stillReadable
            · intro built
              have yes := unbuilt built
              rw [choice below] at yes
              exact absurd yes (by decide)
            · intro _
              rw [nextChoice, choice below]
        | confirmed asked yes built =>
            subst asked
            obtain ⟨start, shown⟩ := summaryChoice_shown reached
            rw [built] at stillReadable ⊢
            refine .inl ⟨⟨start, before, line, ?_, yes, rfl⟩, stillReadable⟩
            simp [Reply.extend, Reply.build, shown]
        | abandoned asked taken unread _ _ =>
            exact (unreadable ⟨asked, taken,
              (strlong_eq_none_iff_of_accepts taken).mp unread⟩).elim

/-! ## What is built is what was shown -/

/-- The applied frequency is the shown one, and both are numbers. -/
def AppliesShown
    (stockHz stockMhz newHz : Intmax)
    (target : Option Intmax) : Prop :=
  ∃ mhz, target = some mhz ∧ newHz = stockHz + (mhz - stockMhz) * 1000000

/--
The last line was `y` or `Y` at a summary, and the apply stage gets what that
summary showed.
-/
def Confirmed (stock : Stock) (world : MenuWorld) : Prop :=
  ∃ earlier shown line,
    world.log =
        earlier ++ [.printed .summaryScreen shown,
          .answered .summaryChoice line] ∧
      (readStrip line = ['y'] ∨ readStrip line = ['Y']) ∧
        AppliesShown stock.littleHz stock.littleStockMhz
          (littleNewHz stock world.vars) shown.littleTargetMhz ∧
        AppliesShown stock.bigHz stock.bigStockMhz
          (bigNewHz stock world.vars) shown.bigTargetMhz ∧
          world.vars.littleVoltage = shown.littleVoltage ∧
            world.vars.bigVoltage = shown.bigVoltage

theorem toLower_eq_y_iff (character : Char) :
    character.toLower = 'y' ↔ character = 'y' ∨ character = 'Y' := by
  refine ⟨?_, ?_⟩
  · intro lower
    unfold Char.toLower at lower
    split at lower
    · -- an upper-case letter moves by 32
      right
      have moved : character.val + 32 = 121 := congrArg Char.val lower
      apply Char.ext
      change character.val = 89
      grind
    · exact .inl lower
  · rintro (rfl | rfl) <;> decide

theorem lowercase_eq_y_iff (text : Text) :
    lowercase text = ['y'] ↔ text = ['y'] ∨ text = ['Y'] := by
  rcases text with _ | ⟨head, _ | ⟨next, rest⟩⟩ <;>
    simp [lowercase, toLower_eq_y_iff]

/-- A configured frequency is applied as it is shown. -/
theorem appliesShown_of_configured
    {stock : Stock}
    {mhz : Intmax}
    {vars : Vars}
    (configured : Configured stock mhz vars) :
    AppliesShown stock.littleHz stock.littleStockMhz
        (littleNewHz stock vars) vars.littleTargetMhz ∧
      AppliesShown stock.bigHz stock.bigStockMhz
        (bigNewHz stock vars) vars.bigTargetMhz := by
  refine ⟨⟨_, configured.littleTargetMhz, ?_⟩,
    ⟨_, configured.bigTargetMhz, ?_⟩⟩
  · rw [littleNewHz, configured.addHz, Option.getD_some]
    grind
  · rw [bigNewHz, configured.addHz, Option.getD_some]
    grind

/--
At the build, the configuration was confirmed and shown exactly when some
entered number of MHz evaluated and none typed below the summary failed to.
-/
theorem confirmed_iff
    {stock : Stock}
    {world : MenuWorld}
    (reached : Reachable stock .build world.vars world.log) :
    Confirmed stock world ↔
      Usable world.log ∧ SummaryReadable world.log := by
  have tuned : Tuned stock world.vars world.log :=
    reachable_frequencyInvariant reached
  refine ⟨?_, ?_⟩
  · rintro ⟨earlier, shown, line, log, -, ⟨little, target, -⟩, -⟩
    rcases reachable_summaryInvariant reached with
      ⟨⟨start, screen, answer, sameLog, -, vars⟩, readable⟩ |
        ⟨start, answer, sameLog, -⟩
    · refine ⟨?_, readable⟩
      have same := List.append_inj_right' (log.symm.trans sameLog) rfl
      simp only [List.cons.injEq, Event.printed.injEq, true_and] at same
      rcases tuned.source with ⟨-, used⟩ | ⟨blank, -⟩
      · exact used
      · have shownTarget :
            world.vars.littleTargetMhz = shown.littleTargetMhz := by
          rw [vars, same.1]
        rw [blank.littleTargetMhz, target] at shownTarget
        cases shownTarget
    · have last := congrArg List.getLast? (sameLog.symm.trans log)
      simp at last
  · rintro ⟨used, readable⟩
    rcases reachable_summaryInvariant reached with
      ⟨⟨start, shown, line, log, yes, vars⟩, -⟩ |
        ⟨start, line, log, taken, unread⟩
    · rcases tuned.source with ⟨⟨mhz, configured⟩, -⟩ | ⟨-, unused⟩
      · have applies := appliesShown_of_configured configured
        refine ⟨start, shown, line, log, (lowercase_eq_y_iff _).mp yes,
          ?_, ?_, by rw [vars], by rw [vars]⟩
        · have sameTarget :
              world.vars.littleTargetMhz = shown.littleTargetMhz := by
            rw [vars]
          rw [← sameTarget]
          exact applies.1
        · have sameTarget :
              world.vars.bigTargetMhz = shown.bigTargetMhz := by
            rw [vars]
          rw [← sameTarget]
          exact applies.2
      · exact (unused used).elim
    · have member :
          (Prompt.summaryNewMhz, readStrip line) ∈ entries world.log := by
        rw [log, entries_append, entries_accepted taken]
        simp
      exact (readable _ member rfl unread).elim

end OverclockBuilder
