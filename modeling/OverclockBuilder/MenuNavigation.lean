import OverclockBuilder.MenuFrequency
import OverclockBuilder.MenuSteps

namespace OverclockBuilder

open RadixText BashText ShellFlow

/-!
# Going back through the menus

Eight prompts offer a `K` option whose label names a screen or a prompt.  A
step is lawful when `K` leads there without touching a setting, and when only
`Y`, `N` or an accepted value reaches a later screen.

The two prompts of the voltage entry dialogue break the law.  Its first `K`
leaves the dialogue while `CHOICE` still holds the `y` that opened it, so the
test behind the loop ends the voltage menu as if voltages had been entered; its
second `K` only starts the dialogue again.
-/

/-- The screens of the menus. -/
inductive Screen where
  | frequency
  | voltage
  | summary
  | build
  deriving Repr, DecidableEq

/-- Frequency comes before voltage, voltage before the summary and the build. -/
def Screen.rank : Screen → Nat
  | .frequency => 0
  | .voltage => 1
  | .summary => 2
  | .build => 3

/-- The screen a prompt belongs to. -/
def Prompt.screen : Prompt → Screen
  | .additionalMhz => .frequency
  | .retryFrequency => .frequency
  | .frequencyChoice => .frequency
  | .voltageChoice => .voltage
  | .littleVoltage => .voltage
  | .retryLittle => .voltage
  | .bigVoltage => .voltage
  | .retryBig => .voltage
  | .voltageFrequencyChoice => .frequency
  | .voltageNewMhz => .frequency
  | .summaryChoice => .summary
  | .summaryVoltageChoice => .voltage
  | .summaryLittle => .voltage
  | .summaryBig => .voltage
  | .retryVoltage => .voltage
  | .summaryFrequencyChoice => .frequency
  | .summaryNewMhz => .frequency

/-- The screen of a location. -/
def Location.screen : Location → Screen
  | .ask prompt => prompt.screen
  | .cancelled => .frequency
  | .build => .build

/-- What the label of a `K` option names: what is shown, and where it waits. -/
def Prompt.backTarget : Prompt → Option (List Output × Location)
  -- `[K] Kembali`
  | .frequencyChoice => some ([.cancelled], .cancelled)
  -- `[K] Kembali ke CPU Frequency`
  | .voltageChoice =>
      some ([.voltageFrequencyScreen], .ask .voltageFrequencyChoice)
  -- `[K] Kembali ke pilihan voltage`, for both questions of the dialogue
  | .littleVoltage => some ([.voltageScreen], .ask .voltageChoice)
  | .bigVoltage => some ([.voltageScreen], .ask .voltageChoice)
  -- `[K] Masukkan ulang frequency`
  | .voltageFrequencyChoice => some ([], .ask .voltageNewMhz)
  -- `[K] Kembali ke Voltage`
  | .summaryChoice =>
      some ([.summaryVoltageScreen], .ask .summaryVoltageChoice)
  -- `[K] Kembali ke CPU Frequency`
  | .summaryVoltageChoice =>
      some ([.summaryFrequencyScreen], .ask .summaryFrequencyChoice)
  -- `[K] Ubah frequency`
  | .summaryFrequencyChoice => some ([], .ask .summaryNewMhz)
  | _ => none

/-- `Y`, an offered `N` or an accepted value. -/
def Prompt.advances (vars : Vars) (answer : Text) : Prompt → Bool
  | .frequencyChoice => lowercase answer = ['y']
  | .voltageChoice => lowercase answer = ['y'] || lowercase answer = ['n']
  | .voltageFrequencyChoice => lowercase answer = ['y']
  | .summaryChoice => lowercase answer = ['y']
  | .summaryVoltageChoice =>
      lowercase answer = ['y'] || lowercase answer = ['n']
  | .summaryFrequencyChoice => lowercase answer = ['y']
  | .littleVoltage => !isBack answer && !rejectsVoltage answer
  | .bigVoltage => !isBack answer && !rejectsVoltage answer
  | .summaryBig => acceptsVoltages vars.littleInput answer
  | prompt => prompt.accepts answer

/-- `MHZ`, `ADD_HZ`, both targets and both voltages are unchanged. -/
structure SameSettings (before after : Vars) : Prop extends
    SameFrequency before after where
  littleVoltage : after.littleVoltage = before.littleVoltage
  bigVoltage : after.bigVoltage = before.bigVoltage

namespace Step

/-- The step answers a `K` option with `K`. -/
def goesBack (step : Step) : Bool :=
  step.prompt.backTarget.isSome && isBack step.answer

/-- `K` leads where its label says, and changes no setting. -/
structure ReturnsTo
    (step : Step)
    (target : List Output × Location) : Prop where
  settings : SameSettings step.before step.next.vars
  printed : step.next.printed = target.1
  location : step.next.location = target.2
  notLater : step.next.location.screen.rank ≤ step.prompt.screen.rank

/-- The navigation law for one step. -/
structure Lawful (step : Step) : Prop where
  back :
    isBack step.answer = true →
      ∀ target ∈ step.prompt.backTarget, step.ReturnsTo target
  forward :
    step.prompt.screen.rank < step.next.location.screen.rank →
      step.prompt.advances step.before step.answer = true

/-- `K` is not answered in the voltage entry dialogue. -/
def AvoidsEntryBack (step : Step) : Prop :=
  step.goesBack = true →
    step.prompt ≠ .littleVoltage ∧ step.prompt ≠ .bigVoltage

end Step

/-! ## The choice behind the entry dialogue -/

/-- The prompts of the voltage entry dialogue. -/
def Prompt.entering : Prompt → Bool
  | .littleVoltage => true
  | .retryLittle => true
  | .bigVoltage => true
  | .retryBig => true
  | _ => false

/-- The locations inside the voltage entry dialogue. -/
def Location.entering : Location → Bool
  | .ask prompt => prompt.entering
  | _ => false

/-- The dialogue was opened with `y`, and `CHOICE` still says so. -/
def EntryInvariant (location : Location) (vars : Vars) : Prop :=
  location.entering = true → vars.choice = ['y']

private theorem endVoltageMenu_entering (vars : Vars) :
    (Reply.endVoltageMenu vars).location.entering = false := by
  unfold Reply.endVoltageMenu
  split <;> rfl

private theorem endSummary_entering (vars : Vars) :
    (Reply.endSummary vars).location.entering = false := by
  unfold Reply.endSummary
  split <;> rfl

/-- Inside the dialogue no line changes `CHOICE`. -/
theorem reply_choice_of_entering
    (stock : Stock)
    (vars : Vars)
    (line : Text)
    {prompt : Prompt}
    (entering : prompt.entering = true) :
    (reply stock vars line prompt).vars.choice = vars.choice := by
  cases prompt with
  | littleVoltage =>
      simp only [reply]
      cases isBack (readStrip line) <;>
        cases rejectsVoltage (readStrip line) <;>
        simp
  | bigVoltage =>
      simp only [reply]
      cases isBack (readStrip line) <;>
        cases rejectsVoltage (readStrip line) <;>
        simp [setInputVoltage]
  | retryLittle | retryBig =>
      rfl
  | _ =>
      cases entering

/-- Only `Y` at the voltage menu opens the dialogue. -/
theorem reply_opens
    {stock : Stock}
    {vars : Vars}
    {line : Text}
    {prompt : Prompt}
    (outside : prompt.entering = false)
    (opened :
      (reply stock vars line prompt).location.entering = true) :
    prompt = .voltageChoice ∧
      (reply stock vars line prompt).vars.choice = ['y'] := by
  have closed (next : Reply)
      (away : next.location.entering = false)
      (there : next.location.entering = true) :
      prompt = .voltageChoice ∧ next.vars.choice = ['y'] :=
    absurd there (by rw [away]; decide)
  cases prompt with
  | voltageChoice =>
      refine ⟨rfl, ?_⟩
      by_cases yes : lowercase (readStrip line) = ['y']
      · simp [reply, yes]
      · by_cases no : lowercase (readStrip line) = ['n']
        · simp [reply, no, Reply.summary, Location.entering,
            Prompt.entering] at opened
        · by_cases back : lowercase (readStrip line) = ['k']
          · simp [reply, back, Reply.voltageFrequency, Location.entering,
              Prompt.entering] at opened
          · simp [reply, yes, no, back, Reply.saying,
              endVoltageMenu_entering] at opened
  | littleVoltage | retryLittle | bigVoltage | retryBig =>
      cases outside
  | retryFrequency | summaryLittle =>
      exact Bool.noConfusion opened
  | _ =>
      revert opened
      simp only [reply, replyFchoice, replyNewMhz]
      (repeat' split) <;>
        first
          | exact closed _ rfl
          | exact closed _ (endVoltageMenu_entering _)
          | exact closed _ (endSummary_entering _)

theorem reply_entryInvariant
    {stock : Stock}
    {vars : Vars}
    {prompt : Prompt}
    (line : Text)
    (invariant : EntryInvariant (.ask prompt) vars) :
    EntryInvariant
      (reply stock vars line prompt).location
      (reply stock vars line prompt).vars := by
  intro opened
  cases entering : prompt.entering with
  | true =>
      rw [reply_choice_of_entering stock vars line entering]
      exact invariant entering
  | false =>
      exact (reply_opens entering opened).2

theorem reachable_entryInvariant
    {stock : Stock}
    {location : Location}
    {vars : Vars}
    {log : List Event}
    (reached : Reachable stock location vars log) :
    EntryInvariant location vars := by
  induction reached with
  | start =>
      intro entering
      cases entering
  | answer line _ inductionHypothesis =>
      exact reply_entryInvariant line inductionHypothesis

/-! ## Forward only by an answer -/

/-- A line that neither confirms nor enters a value reaches no later screen. -/
theorem notLater_of_not_advances
    {stock : Stock}
    {vars : Vars}
    {line : Text}
    {prompt : Prompt}
    (stays : prompt.advances vars (readStrip line) = false)
    (inside :
      prompt = .littleVoltage → isBack (readStrip line) = false) :
    (reply stock vars line prompt).location.screen.rank ≤
      prompt.screen.rank := by
  cases prompt with
  | additionalMhz =>
      have refused : rejectsMhz (readStrip line) = true := by
        simpa [Prompt.advances, Prompt.accepts] using stays
      simp only [reply, refused, ↓reduceIte]
      exact Nat.le_refl _
  | voltageNewMhz | summaryNewMhz =>
      have refused : acceptsMhz (readStrip line) = false := stays
      simp only [reply, replyNewMhz, refused, Bool.false_eq_true, ↓reduceIte]
      exact Nat.le_refl _
  | frequencyChoice | voltageFrequencyChoice | summaryFrequencyChoice
    | summaryChoice =>
      have notYes : lowercase (readStrip line) ≠ ['y'] := by
        simpa [Prompt.advances] using stays
      simp only [reply, replyFchoice, Reply.endSummary, notYes, ↓reduceIte]
      split
      · first
          | exact Nat.le_refl _
          | exact Nat.le_succ _
      · exact Nat.le_refl _
  | voltageChoice | summaryVoltageChoice =>
      obtain ⟨notYes, notNo⟩ :
          lowercase (readStrip line) ≠ ['y'] ∧
            lowercase (readStrip line) ≠ ['n'] := by
        simpa [Prompt.advances] using stays
      simp only [reply, Reply.endVoltageMenu, notYes, notNo, or_self,
        ↓reduceIte]
      split
      · exact Nat.zero_le _
      · exact Nat.le_refl _
  | littleVoltage =>
      have notBack := inside rfl
      have refused : rejectsVoltage (readStrip line) = true := by
        simpa [Prompt.advances, notBack] using stays
      simp only [reply, notBack, refused, Bool.false_eq_true, ↓reduceIte]
      exact Nat.le_refl _
  | bigVoltage =>
      simp only [reply]
      cases back : isBack (readStrip line) with
      | true =>
          exact Nat.le_refl _
      | false =>
          have refused : rejectsVoltage (readStrip line) = true := by
            simpa [Prompt.advances, back] using stays
          simp only [refused, Bool.false_eq_true, ↓reduceIte]
          exact Nat.le_refl _
  | summaryBig =>
      have refused :
          acceptsVoltages vars.littleInput (readStrip line) = false := stays
      simp only [reply, refused, Bool.false_eq_true, ↓reduceIte]
      exact Nat.le_refl _
  | retryFrequency | retryLittle | retryBig | summaryLittle
    | retryVoltage =>
      exact Nat.le_refl _

/-! ## The navigation law -/

/-- Both spellings of `K` are the choice `k`. -/
theorem lowercase_of_isBack
    {answer : Text}
    (back : isBack answer = true) :
    lowercase answer = ['k'] := by
  simp only [isBack, Bool.or_eq_true, decide_eq_true_eq] at back
  rcases back with rfl | rfl <;>
    rfl

/-- Away from the entry dialogue `K` does what its label says. -/
theorem returnsTo_of_back
    {stock : Stock}
    {vars : Vars}
    {line : Text}
    {prompt : Prompt}
    {target : List Output × Location}
    (offered : target ∈ prompt.backTarget)
    (back : isBack (readStrip line) = true)
    (notLittle : prompt ≠ .littleVoltage)
    (notBig : prompt ≠ .bigVoltage) :
    Step.ReturnsTo
      ⟨prompt, vars, line, reply stock vars line prompt⟩ target := by
  have choice := lowercase_of_isBack back
  cases prompt with
  | littleVoltage =>
      exact absurd rfl notLittle
  | bigVoltage =>
      exact absurd rfl notBig
  | frequencyChoice | voltageChoice | voltageFrequencyChoice
    | summaryChoice | summaryVoltageChoice | summaryFrequencyChoice =>
      cases offered
      constructor <;>
        simp only [reply, replyFchoice, choice, List.cons.injEq, Char.reduceEq,
          and_true, ↓reduceIte]
      · exact ⟨⟨rfl, rfl, rfl, rfl⟩, rfl, rfl⟩
      all_goals
        first
          | rfl
          | exact Nat.zero_le _
          | exact Nat.le_succ _
  | _ =>
      cases offered

/-- In the entry dialogue `K` does not lead to the voltage menu. -/
theorem not_returnsTo_of_entry
    {stock : Stock}
    {vars : Vars}
    {line : Text}
    {prompt : Prompt}
    (opened : vars.choice = ['y'])
    (back : isBack (readStrip line) = true)
    (dialogue : prompt = .littleVoltage ∨ prompt = .bigVoltage) :
    ¬ Step.ReturnsTo
        ⟨prompt, vars, line, reply stock vars line prompt⟩
        ([.voltageScreen], .ask .voltageChoice) := by
  intro returns
  have location := returns.location
  rcases dialogue with rfl | rfl
  · -- the test behind the loop still sees the `y`
    simp [reply, back, Reply.endVoltageMenu, opened, Reply.summary]
      at location
  · simp [reply, back, Reply.voltageEntry] at location

/-- A step is lawful exactly when it is not a `K` of the entry dialogue. -/
theorem Step.lawful_iff
    {stock : Stock}
    {step : Step}
    (reached : step.Reached stock) :
    step.Lawful ↔ step.AvoidsEntryBack := by
  obtain ⟨prompt, vars, line, next⟩ := step
  obtain ⟨replied, log, reachable⟩ := reached
  change next = reply stock vars line prompt at replied
  subst replied
  have invariant := reachable_entryInvariant reachable
  refine ⟨?_, ?_⟩
  · rintro ⟨returns, -⟩ goes
    obtain ⟨-, back⟩ := Bool.and_eq_true_iff.mp goes
    refine ⟨?_, ?_⟩
    · rintro rfl
      exact not_returnsTo_of_entry (invariant rfl) back (.inl rfl)
        (returns back _ rfl)
    · rintro rfl
      exact not_returnsTo_of_entry (invariant rfl) back (.inr rfl)
        (returns back _ rfl)
  · intro avoids
    refine ⟨?_, ?_⟩
    · intro back target offered
      have goes :
          Step.goesBack
              ⟨prompt, vars, line, reply stock vars line prompt⟩ = true :=
        Bool.and_eq_true_iff.mpr
          ⟨Option.isSome_of_mem offered, back⟩
      obtain ⟨notLittle, notBig⟩ := avoids goes
      exact returnsTo_of_back offered back notLittle notBig
    · intro later
      by_contra stays
      refine absurd (notLater_of_not_advances
        (Bool.not_eq_true _ ▸ stays) ?_) (Nat.not_le.mpr later)
      rintro rfl
      by_contra answered
      have goes :
          Step.goesBack
              ⟨.littleVoltage, vars, line,
                reply stock vars line .littleVoltage⟩ = true :=
        Bool.not_eq_false _ ▸ answered
      exact (avoids goes).1 rfl

/--
The navigation law of whole sessions.

Every step of a session is lawful exactly when `K` is never answered in the
voltage entry dialogue.
-/
theorem sessionSteps_lawful_iff
    (stock : Stock)
    (lines : List Text) :
    (∀ step ∈ sessionSteps stock lines, step.Lawful) ↔
      ∀ step ∈ sessionSteps stock lines, step.AvoidsEntryBack :=
  forall₂_congr fun _ member =>
    Step.lawful_iff (sessionSteps_reached member)

/-- `50`, `Y`, `Y`, then `K` at the first voltage. -/
def backFromEntryLines : List Text :=
  ["50".toList, "y".toList, "y".toList, "k".toList]

/-- The `K` of the entry dialogue shows the summary. -/
theorem sessionSteps_not_lawful :
    ∃ step ∈ sessionSteps readmeStock backFromEntryLines,
      step.prompt = .littleVoltage ∧ step.line = "k".toList ∧
        step.next.printed = [.summaryScreen] ∧ ¬ step.Lawful := by
  have shown :
      ∃ step ∈ sessionSteps readmeStock backFromEntryLines,
        step.prompt = .littleVoltage ∧ step.line = "k".toList ∧
          step.next.printed = [.summaryScreen] := by
    decide +kernel
  obtain ⟨step, member, asked, typed, printed⟩ := shown
  refine ⟨step, member, asked, typed, printed, ?_⟩
  rw [Step.lawful_iff (sessionSteps_reached member)]
  intro avoids
  refine (avoids ?_).1 asked
  rw [Step.goesBack, Step.answer, asked, typed]
  decide

end OverclockBuilder
