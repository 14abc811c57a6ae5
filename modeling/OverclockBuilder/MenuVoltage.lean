import OverclockBuilder.ApplyStage
import OverclockBuilder.MenuReachable

namespace OverclockBuilder

open RadixText BashText ShellFlow

/-!
# The voltage pair behind the menus

Two dialogues assign the pair, in one step each, and two answers reset it.
`nextVoltages` is the whole effect of one line on the pair; the invariant says
that a pair which is not the stock pair was typed at two consecutive prompts of
one dialogue.
-/

/-- The pair of voltage texts. -/
def Vars.voltages (vars : Vars) : Text × Text :=
  (vars.littleVoltage, vars.bigVoltage)

/-- The pair of stock texts. -/
def Stock.voltages (stock : Stock) : Text × Text :=
  (stock.littleVoltageStock, stock.bigVoltageStock)

/-- `N` at one of the two voltage choices. -/
def restoresStock (prompt : Prompt) (line : Text) : Bool :=
  (prompt = .voltageChoice || prompt = .summaryVoltageChoice) &&
    lowercase (readStrip line) = ['n']

/-- The accepted second half of a voltage dialogue. -/
def completesPair (vars : Vars) (prompt : Prompt) (line : Text) : Bool :=
  match prompt with
  | .bigVoltage =>
      !isBack (readStrip line) && !rejectsVoltage (readStrip line)
  | .summaryBig =>
      acceptsVoltages vars.littleInput (readStrip line)
  | _ =>
      false

/-- The effect of one line on the pair. -/
def nextVoltages
    (stock : Stock)
    (vars : Vars)
    (prompt : Prompt)
    (line : Text) :
    Text × Text :=
  if restoresStock prompt line then
    stock.voltages
  else if completesPair vars prompt line then
    (vars.littleInput, readStrip line)
  else
    vars.voltages

/-- Every reply treats the pair as `nextVoltages` says. -/
theorem reply_voltages
    (stock : Stock)
    (vars : Vars)
    (line : Text)
    (prompt : Prompt) :
    (reply stock vars line prompt).vars.voltages =
      nextVoltages stock vars prompt line := by
  cases prompt with
  | voltageChoice | summaryVoltageChoice =>
      by_cases yes : lowercase (readStrip line) = ['y']
      · simp [reply, nextVoltages, restoresStock, completesPair, yes,
          Vars.voltages]
      · by_cases no : lowercase (readStrip line) = ['n']
        · simp [reply, nextVoltages, restoresStock, no, Vars.voltages,
            Stock.voltages, setStockVoltage]
        · by_cases back : lowercase (readStrip line) = ['k'] <;>
            simp [reply, nextVoltages, restoresStock, completesPair, yes,
              no, back, Vars.voltages]
  | bigVoltage =>
      cases back : isBack (readStrip line) <;>
        cases rejected : rejectsVoltage (readStrip line) <;>
        simp [reply, nextVoltages, restoresStock, completesPair, back,
          rejected, Vars.voltages, setInputVoltage]
  | summaryBig =>
      cases accepted :
          acceptsVoltages vars.littleInput (readStrip line) <;>
        simp [reply, nextVoltages, restoresStock, completesPair, accepted,
          Vars.voltages, setInputVoltage]
  | _ =>
      simp only [reply, replyFchoice, replyNewMhz]
      (repeat' split) <;>
        simp [nextVoltages, restoresStock, completesPair, Vars.voltages,
          setFrequency]

/-! ## Where the first half comes from -/

/-- The first half of each dialogue has just been typed. -/
def HalfTyped (log : List Event) (input : Text) (prompt : Prompt) : Prop :=
  ∃ earlier line,
    log = earlier ++ [.answered prompt line] ∧ input = readStrip line

/-- What the log and `LITTLE_INPUT` hold at the second prompt of a dialogue. -/
def DialogueInvariant
    (vars : Vars)
    (log : List Event) : Location → Prop
  | .ask .bigVoltage =>
      HalfTyped log vars.littleInput .littleVoltage ∧
        rejectsVoltage vars.littleInput = false
  | .ask .summaryBig =>
      HalfTyped log vars.littleInput .summaryLittle
  | _ => True

theorem reachable_dialogueInvariant
    {stock : Stock}
    {location : Location}
    {vars : Vars}
    {log : List Event}
    (reached : Reachable stock location vars log) :
    DialogueInvariant vars log location := by
  have endVoltageMenu (shown after : Vars) (log : List Event) :
      DialogueInvariant shown log
        (Reply.endVoltageMenu after).location := by
    unfold Reply.endVoltageMenu
    split <;> trivial
  have endSummary (shown after : Vars) (log : List Event) :
      DialogueInvariant shown log (Reply.endSummary after).location := by
    unfold Reply.endSummary
    split <;> trivial
  cases reached with
  | start =>
      trivial
  | @answer prompt before earlier line reached =>
      cases prompt with
      | littleVoltage =>
          simp only [reply]
          split
          · exact endVoltageMenu _ _ _
          · split
            · trivial
            · rename_i accepted
              refine ⟨⟨earlier, line, ?_, rfl⟩, ?_⟩
              · simp [Reply.extend]
              · simpa using accepted
      | summaryLittle =>
          refine ⟨earlier, line, ?_, rfl⟩
          simp [reply, Reply.extend]
      | _ =>
          simp only [reply, replyFchoice, replyNewMhz]
          (repeat' split) <;>
            first
              | trivial
              | exact endVoltageMenu _ _ _
              | exact endSummary _ _ _

/-! ## The pair -/

/-- Both voltage dialogues, by their two prompts. -/
inductive Dialogue : Prompt → Prompt → Prop where
  | voltageMenu : Dialogue .littleVoltage .bigVoltage
  | summary : Dialogue .summaryLittle .summaryBig

/-- A pair of nonzero digit strings typed in one pass of one dialogue. -/
structure TypedPair
    (log : List Event)
    (pair : Text × Text) : Prop where
  typed :
    ∃ littlePrompt bigPrompt littleLine bigLine earlier later,
      Dialogue littlePrompt bigPrompt ∧
        log =
          earlier ++ [.answered littlePrompt littleLine,
            .answered bigPrompt bigLine] ++ later ∧
          pair = (readStrip littleLine, readStrip bigLine)
  littleDecimal : isDecimal pair.1 = true
  littleNonzero : numeral 10 pair.1 ≠ 0
  bigDecimal : isDecimal pair.2 = true
  bigNonzero : numeral 10 pair.2 ≠ 0

/-- The pair is the stock pair or was typed in one pass of one dialogue. -/
def VoltageInvariant
    (stock : Stock)
    (vars : Vars)
    (log : List Event) : Prop :=
  vars.voltages = stock.voltages ∨ TypedPair log vars.voltages

theorem TypedPair.extend
    {log : List Event}
    {pair : Text × Text}
    (typed : TypedPair log pair)
    (more : List Event) :
    TypedPair (log ++ more) pair := by
  obtain ⟨⟨littlePrompt, bigPrompt, littleLine, bigLine, earlier, later,
    dialogue, same, texts⟩, littleDecimal, littleNonzero, bigDecimal,
    bigNonzero⟩ := typed
  refine ⟨⟨littlePrompt, bigPrompt, littleLine, bigLine, earlier,
    later ++ more, dialogue, ?_, texts⟩, littleDecimal, littleNonzero,
    bigDecimal, bigNonzero⟩
  rw [same, List.append_assoc]

theorem decimal_of_not_rejectsVoltage
    {text : Text}
    (accepted : rejectsVoltage text = false) :
    isDecimal text = true ∧ numeral 10 text ≠ 0 := by
  simp only [rejectsVoltage, Bool.or_eq_false_iff, Bool.not_eq_false']
    at accepted
  refine ⟨accepted.1, ?_⟩
  intro zero
  have equal : testEq text 0 = true := by
    rw [testEq_iff, zero]
    exact ⟨by decide, rfl⟩
  rw [equal] at accepted
  cases accepted.2

theorem decimal_of_acceptsVoltages
    {little big : Text}
    (accepted : acceptsVoltages little big = true) :
    (isDecimal little = true ∧ numeral 10 little ≠ 0) ∧
      isDecimal big = true ∧ numeral 10 big ≠ 0 := by
  simp only [acceptsVoltages, Bool.and_eq_true, testGt_iff] at accepted
  obtain ⟨⟨⟨littleDecimal, -, littlePositive⟩, bigDecimal⟩, -,
    bigPositive⟩ := accepted
  exact ⟨⟨littleDecimal, by omega⟩, bigDecimal, by omega⟩

/-- A completed dialogue yields a typed pair. -/
theorem typedPair_of_completes
    {vars : Vars}
    {log : List Event}
    {prompt : Prompt}
    {line : Text}
    (dialogue : DialogueInvariant vars log (.ask prompt))
    (completes : completesPair vars prompt line = true) :
    TypedPair (log ++ [.answered prompt line])
      (vars.littleInput, readStrip line) := by
  cases prompt with
  | bigVoltage =>
      obtain ⟨⟨earlier, littleLine, rfl, input⟩, accepted⟩ := dialogue
      simp only [completesPair, Bool.and_eq_true, Bool.not_eq_true']
        at completes
      have little := decimal_of_not_rejectsVoltage accepted
      have big := decimal_of_not_rejectsVoltage completes.2
      refine ⟨⟨_, _, littleLine, line, earlier, [], .voltageMenu, ?_, ?_⟩,
        little.1, little.2, big.1, big.2⟩
      · simp
      · rw [input]
  | summaryBig =>
      obtain ⟨earlier, littleLine, rfl, input⟩ := dialogue
      obtain ⟨little, big⟩ := decimal_of_acceptsVoltages completes
      refine ⟨⟨_, _, littleLine, line, earlier, [], .summary, ?_, ?_⟩,
        little.1, little.2, big.1, big.2⟩
      · simp
      · rw [input]
  | _ =>
      cases completes

/-- The voltage invariant holds in every session. -/
theorem reachable_voltageInvariant
    {stock : Stock}
    {location : Location}
    {vars : Vars}
    {log : List Event}
    (reached : Reachable stock location vars log) :
    VoltageInvariant stock vars log := by
  induction reached with
  | start =>
      exact .inl rfl
  | @answer prompt before earlier line reached inductionHypothesis =>
      have next := reply_voltages stock before line prompt
      unfold VoltageInvariant
      rw [next, nextVoltages, Reply.extend]
      by_cases restores : restoresStock prompt line = true
      · rw [if_pos restores]
        exact .inl rfl
      · rw [if_neg restores]
        by_cases completes : completesPair before prompt line = true
        · rw [if_pos completes]
          exact .inr
            ((typedPair_of_completes (reachable_dialogueInvariant reached)
              completes).extend _)
        · rw [if_neg completes]
          rcases inductionHypothesis with isStock | typed
          · exact .inl isStock
          · exact .inr ((typed.extend _).extend _)

/-- A pair that is not the stock pair was typed. -/
theorem typedPair_of_changed
    {stock : Stock}
    {vars : Vars}
    {log : List Event}
    (invariant : VoltageInvariant stock vars log)
    (changed : voltageChanged stock vars = true) :
    TypedPair log vars.voltages := by
  rcases invariant with isStock | typed
  · simp only [Vars.voltages, Stock.voltages, Prod.mk.injEq] at isStock
    simp [voltageChanged, isStock] at changed
  · exact typed

/-- One more line changes a session by one reply, or finds it ended. -/
theorem runMenus_snoc
    (stock : Stock)
    (lines : List Text)
    (line : Text) :
    (∃ prompt,
        (runMenus stock lines).1 = .exit 1 ∧
          (runMenus stock (lines ++ [line])).2.vars =
              (reply stock (runMenus stock lines).2.vars line prompt).vars ∧
            (runMenus stock (lines ++ [line])).2.log =
              (reply stock (runMenus stock lines).2.vars line
                prompt).extend
                ((runMenus stock lines).2.log ++
                  [.answered prompt line])) ∨
      (runMenus stock (lines ++ [line])).2.vars =
          (runMenus stock lines).2.vars ∧
        (runMenus stock (lines ++ [line])).2.log =
          (runMenus stock lines).2.log := by
  have general
      (lines : List Text)
      (location : Location)
      (vars : Vars)
      (log : List Event) :
      (∃ prompt,
          (resume stock lines location vars log).1 = .exit 1 ∧
            (resume stock (lines ++ [line]) location vars log).2.vars =
                (reply stock
                  (resume stock lines location vars log).2.vars line
                  prompt).vars ∧
              (resume stock (lines ++ [line]) location vars log).2.log =
                (reply stock
                  (resume stock lines location vars log).2.vars line
                  prompt).extend
                  ((resume stock lines location vars log).2.log ++
                    [.answered prompt line])) ∨
        (resume stock (lines ++ [line]) location vars log).2.vars =
            (resume stock lines location vars log).2.vars ∧
          (resume stock (lines ++ [line]) location vars log).2.log =
            (resume stock lines location vars log).2.log := by
    induction lines generalizing location vars log with
    | nil =>
        cases location with
        | ask prompt =>
            refine .inl ⟨prompt, rfl, ?_⟩
            rw [List.nil_append, resume_cons, resumeReply]
            cases (reply stock vars line prompt).location <;>
              exact ⟨rfl, rfl⟩
        | cancelled | build =>
            exact .inr ⟨rfl, rfl⟩
    | cons head rest inductionHypothesis =>
        cases location with
        | ask prompt =>
            exact inductionHypothesis _ _ _
        | cancelled | build =>
            exact .inr ⟨rfl, rfl⟩
  rw [runMenus_eq_resume, runMenus_eq_resume]
  exact general lines _ _ _

/--
After every sequence of lines the pair is the stock pair or was typed in one
pass of one dialogue; the next line restores the stock pair, completes a
dialogue, or leaves the pair as it was; and the apply stage writes either no
voltage or a typed pair.
-/
theorem voltages_runMenus
    (stock : Stock)
    (lines : List Text) :
    VoltageInvariant stock
        (runMenus stock lines).2.vars (runMenus stock lines).2.log ∧
      (∀ line prompt printed,
        (runMenus stock (lines ++ [line])).2.log =
            (runMenus stock lines).2.log ++
              .answered prompt line :: printed →
          (restoresStock prompt line = true →
              (runMenus stock (lines ++ [line])).2.vars.voltages =
                stock.voltages) ∧
            (restoresStock prompt line = false →
              completesPair (runMenus stock lines).2.vars prompt line =
                  false →
                (runMenus stock (lines ++ [line])).2.vars.voltages =
                  (runMenus stock lines).2.vars.voltages)) ∧
        (voltageCalls stock (runMenus stock lines).2.vars = [] ∨
          ∃ little big,
            voltageCalls stock (runMenus stock lines).2.vars =
                [putMicrovolt littleTable little,
                  putMicrovolt bigTable big] ∧
              TypedPair (runMenus stock lines).2.log (little, big)) := by
  obtain ⟨last, -, reached⟩ := runMenus_reachable stock lines
  have invariant := reachable_voltageInvariant reached
  refine ⟨invariant, ?_, ?_⟩
  · intro line prompt printed answered
    rcases runMenus_snoc stock lines line with
      ⟨asked, -, vars, log⟩ | ⟨-, log⟩
    · have samePrompt : asked = prompt := by
        rw [log, Reply.extend, List.append_assoc,
          List.append_cancel_left_eq] at answered
        simp only [List.singleton_append, List.cons.injEq,
          Event.answered.injEq] at answered
        exact answered.1.1
      subst samePrompt
      rw [vars, reply_voltages, nextVoltages]
      refine ⟨fun restores => by rw [if_pos restores], ?_⟩
      intro keeps incomplete
      rw [if_neg (by simp [keeps]), if_neg (by simp [incomplete])]
    · rw [log] at answered
      simp at answered
  · unfold voltageCalls
    cases changed :
        voltageChanged stock (runMenus stock lines).2.vars with
    | false =>
        exact .inl rfl
    | true =>
        exact .inr ⟨_, _, rfl, typedPair_of_changed invariant changed⟩

end OverclockBuilder
