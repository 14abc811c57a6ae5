import OverclockBuilder.MenuReachable

namespace OverclockBuilder

open RadixText BashText ShellFlow

/-!
# The frequency behind the menus

Three prompts accept a number of MHz, and `$(( ))` copies it into `ADD_HZ` and
both target frequencies.  Behind the frequency menu the copies always agree
with one another; they agree with the accepted text whenever `$(( ))` can read
it, and they stay behind it otherwise.
-/

/-- The check of each prompt that takes a number of MHz. -/
def Prompt.accepts : Prompt → Text → Bool
  | .additionalMhz, text => !rejectsMhz text
  | .voltageNewMhz, text => acceptsMhz text
  | .summaryNewMhz, text => acceptsMhz text
  | _, _ => false

/-- The prompts of the frequency menu. -/
def Prompt.early : Prompt → Bool
  | .additionalMhz => true
  | .retryFrequency => true
  | .frequencyChoice => true
  | _ => false

/-- The locations behind the frequency menu. -/
def Location.configured : Location → Bool
  | .ask prompt => !prompt.early
  | .cancelled => false
  | .build => true

/-- The frequency variables are unchanged. -/
structure SameFrequency (before after : Vars) : Prop where
  mhz : after.mhz = before.mhz
  addHz : after.addHz = before.addHz
  littleTargetMhz : after.littleTargetMhz = before.littleTargetMhz
  bigTargetMhz : after.bigTargetMhz = before.bigTargetMhz

/-- `ADD_HZ` and both targets hold one number of MHz. -/
structure Configured
    (stock : Stock)
    (mhz : Intmax)
    (vars : Vars) : Prop where
  addHz : vars.addHz = some (mhz * 1000000)
  littleTargetMhz :
    vars.littleTargetMhz = some (stock.littleStockMhz + mhz)
  bigTargetMhz : vars.bigTargetMhz = some (stock.bigStockMhz + mhz)

/-- `ADD_HZ` and both targets are still empty. -/
structure Blank (vars : Vars) : Prop where
  addHz : vars.addHz = none
  littleTargetMhz : vars.littleTargetMhz = none
  bigTargetMhz : vars.bigTargetMhz = none

theorem setFrequency_configured
    (stock : Stock)
    (mhz : Intmax)
    (vars : Vars) :
    Configured stock mhz (setFrequency stock mhz vars) :=
  ⟨rfl, rfl, rfl⟩

theorem Configured.same
    {stock : Stock}
    {mhz : Intmax}
    {before after : Vars}
    (configured : Configured stock mhz before)
    (same : SameFrequency before after) :
    Configured stock mhz after :=
  ⟨same.addHz.trans configured.addHz,
    same.littleTargetMhz.trans configured.littleTargetMhz,
    same.bigTargetMhz.trans configured.bigTargetMhz⟩

theorem Blank.same
    {before after : Vars}
    (blank : Blank before)
    (same : SameFrequency before after) :
    Blank after :=
  ⟨same.addHz.trans blank.addHz,
    same.littleTargetMhz.trans blank.littleTargetMhz,
    same.bigTargetMhz.trans blank.bigTargetMhz⟩

/-- What one line can do to the frequency behind the frequency menu. -/
inductive FrequencyStep
    (stock : Stock)
    (before : Vars)
    (text : Text)
    (accepted : Bool)
    (after : Vars) : Prop where
  | kept
      (refused : accepted = false)
      (same : SameFrequency before after)
  | entered
      (mhz : Intmax)
      (taken : accepted = true)
      (read : strlong text = some mhz)
      (stored : after.mhz = text)
      (configured : Configured stock mhz after)
  | abandoned
      (taken : accepted = true)
      (unread : strlong text = none)
      (same : SameFrequency { before with mhz := text } after)

theorem replyNewMhz_frequencyStep
    (stock : Stock)
    (vars : Vars)
    (text : Text)
    {accept abandon reject : Vars → Reply}
    (acceptVars : ∀ vars, (accept vars).vars = vars)
    (abandonVars : ∀ vars, (abandon vars).vars = vars)
    (rejectVars : ∀ vars, (reject vars).vars = vars) :
    FrequencyStep stock vars text (acceptsMhz text)
      (replyNewMhz stock vars text accept abandon reject).vars := by
  unfold replyNewMhz
  cases accepted : acceptsMhz text with
  | false =>
      refine .kept rfl ?_
      constructor <;> simp [rejectVars]
  | true =>
      cases read : strlong text with
      | some mhz =>
          refine .entered mhz rfl read ?_ ?_
          · simp [acceptVars, setFrequency]
          · simp [acceptVars, setFrequency_configured]
      | none =>
          refine .abandoned rfl read ?_
          constructor <;> simp [abandonVars]

/-- What a line behind the frequency menu does to the frequency. -/
theorem reply_frequencyStep
    (stock : Stock)
    (vars : Vars)
    (line : Text)
    {prompt : Prompt}
    (behind : prompt.early = false) :
    FrequencyStep stock vars (readStrip line)
      (prompt.accepts (readStrip line))
      (reply stock vars line prompt).vars := by
  cases prompt with
  | additionalMhz | retryFrequency | frequencyChoice =>
      cases behind
  | voltageNewMhz =>
      exact replyNewMhz_frequencyStep stock vars (readStrip line)
        Reply.endVoltageMenu_vars Reply.summary_vars
        Reply.voltageFrequency_vars
  | summaryNewMhz =>
      exact replyNewMhz_frequencyStep stock vars (readStrip line)
        Reply.endSummary_vars Reply.build_vars
        Reply.summaryFrequency_vars
  | _ =>
      refine .kept rfl ?_
      simp only [reply, replyFchoice]
      (repeat' split) <;>
        constructor <;>
        simp [setStockVoltage, setInputVoltage]

/-- The menus never return to the frequency menu. -/
theorem reply_configured
    (stock : Stock)
    (vars : Vars)
    (line : Text)
    {prompt : Prompt}
    (behind : prompt.early = false) :
    (reply stock vars line prompt).location.configured = true := by
  have endVoltageMenu (after : Vars) :
      (Reply.endVoltageMenu after).location.configured = true := by
    unfold Reply.endVoltageMenu
    split <;> rfl
  have endSummary (after : Vars) :
      (Reply.endSummary after).location.configured = true := by
    unfold Reply.endSummary
    split <;> rfl
  cases prompt with
  | additionalMhz | retryFrequency | frequencyChoice =>
      cases behind
  | _ =>
      simp only [reply, replyFchoice, replyNewMhz]
      (repeat' split) <;>
        first
          | rfl
          | exact endVoltageMenu _
          | exact endSummary _

/-! ## Accepted values -/

/-- The number of MHz an event entered, with the prompt that accepted it. -/
def Event.entry? : Event → Option (Prompt × Text)
  | .printed _ _ => none
  | .answered prompt line =>
      if prompt.accepts (readStrip line) then
        some (prompt, readStrip line)
      else
        none

/-- The numbers of MHz a session entered, in order. -/
def entries (log : List Event) : List (Prompt × Text) :=
  log.filterMap Event.entry?

/-- Some entered number of MHz could be evaluated. -/
def Usable (log : List Event) : Prop :=
  ∃ entry ∈ entries log, ¬ Unreadable entry.2

@[simp] theorem entries_append (first second : List Event) :
    entries (first ++ second) = entries first ++ entries second :=
  List.filterMap_append

@[simp] theorem entries_extend (next : Reply) (log : List Event) :
    entries (next.extend log) = entries log := by
  have printed :
      entries
          (next.printed.map fun output => .printed output next.vars) =
        [] := by
    simp [entries, Event.entry?]
  rw [Reply.extend, entries_append, printed, List.append_nil]

theorem entries_refused
    {prompt : Prompt}
    {line : Text}
    (refused : prompt.accepts (readStrip line) = false) :
    entries [.answered prompt line] = [] := by
  simp [entries, Event.entry?, refused]

theorem entries_accepted
    {prompt : Prompt}
    {line : Text}
    (taken : prompt.accepts (readStrip line) = true) :
    entries [.answered prompt line] = [(prompt, readStrip line)] := by
  simp [entries, Event.entry?, taken]

@[simp] theorem mem_entries_answered
    {entry : Prompt × Text}
    {prompt : Prompt}
    {line : Text} :
    entry ∈ entries [.answered prompt line] ↔
      prompt.accepts (readStrip line) = true ∧
        entry = (prompt, readStrip line) := by
  cases taken : prompt.accepts (readStrip line) with
  | false =>
      simp [entries_refused taken]
  | true =>
      simp [entries_accepted taken]

/-- What a session entered was accepted by its prompt. -/
theorem accepts_of_mem_entries
    {log : List Event}
    {entry : Prompt × Text}
    (member : entry ∈ entries log) :
    entry.1.accepts entry.2 = true := by
  obtain ⟨event, -, read⟩ := List.mem_filterMap.mp member
  cases event with
  | printed output vars =>
      cases read
  | answered prompt line =>
      simp only [Event.entry?, Option.ite_none_right_eq_some,
        Option.some.injEq] at read
      obtain ⟨taken, rfl⟩ := read
      exact taken

/-- The text was entered in the session, at some prompt. -/
def Entered (log : List Event) (text : Text) : Prop :=
  ∃ prompt, (prompt, text) ∈ entries log

theorem Entered.append
    {log : List Event}
    {text : Text}
    (entered : Entered log text)
    (more : List Event) :
    Entered (log ++ more) text := by
  obtain ⟨prompt, member⟩ := entered
  exact ⟨prompt, by simp [member]⟩

theorem entered_answered
    {prompt : Prompt}
    {line : Text}
    (log : List Event)
    (taken : prompt.accepts (readStrip line) = true) :
    Entered (log ++ [.answered prompt line]) (readStrip line) :=
  ⟨prompt, by simp [taken]⟩

@[simp] theorem entered_extend
    (next : Reply)
    (log : List Event)
    (text : Text) :
    Entered (next.extend log) text ↔ Entered log text := by
  rw [Entered, entries_extend, Entered]

/-- The accepting checks imply that the first prompt would accept. -/
theorem rejectsMhz_of_acceptsMhz
    {text : Text}
    (accepted : acceptsMhz text = true) :
    rejectsMhz text = false := by
  simp only [acceptsMhz, Bool.and_eq_true, testGt_iff, testLe_iff]
    at accepted
  obtain ⟨⟨decimal, -, positive⟩, inRange, bounded⟩ := accepted
  have notZero : testEq text 0 = false := by
    rw [Bool.eq_false_iff, Ne, testEq_iff]
    omega
  have notAbove : testGt text 500 = false := by
    rw [Bool.eq_false_iff, Ne, testGt_iff]
    omega
  simp [rejectsMhz, decimal, notZero, notAbove]

theorem isDecimal_of_not_rejectsMhz
    {text : Text}
    (accepted : rejectsMhz text = false) :
    isDecimal text = true := by
  simp only [rejectsMhz, Bool.or_eq_false_iff, Bool.not_eq_false'] at accepted
  exact accepted.1.1

/-- Every prompt accepts only what the first prompt does not reject. -/
theorem rejectsMhz_of_accepts
    {prompt : Prompt}
    {text : Text}
    (taken : prompt.accepts text = true) :
    rejectsMhz text = false := by
  cases prompt with
  | additionalMhz =>
      simpa [Prompt.accepts] using taken
  | voltageNewMhz | summaryNewMhz =>
      exact rejectsMhz_of_acceptsMhz taken
  | _ =>
      cases taken

theorem Entered.rejectsMhz
    {log : List Event}
    {text : Text}
    (entered : Entered log text) :
    rejectsMhz text = false := by
  obtain ⟨prompt, member⟩ := entered
  exact rejectsMhz_of_accepts (accepts_of_mem_entries member)

/-- For an accepted text, being unreadable is failing to evaluate. -/
theorem strlong_eq_none_iff_of_accepts
    {prompt : Prompt}
    {text : Text}
    (taken : prompt.accepts text = true) :
    strlong text = none ↔ Unreadable text :=
  strlong_eq_none_iff
    (isDecimal_of_not_rejectsMhz (rejectsMhz_of_accepts taken))

/-! ## The invariant -/

/-- The frequency behind the frequency menu. -/
structure Tuned
    (stock : Stock)
    (vars : Vars)
    (log : List Event) : Prop where
  entered : Entered log vars.mhz
  evaluated :
    ∀ mhz, strlong vars.mhz = some mhz → Configured stock mhz vars
  source :
    (∃ mhz, Configured stock mhz vars) ∧ Usable log ∨
      Blank vars ∧ ¬ Usable log

/-- The frequency at every location. -/
def FrequencyInvariant
    (stock : Stock)
    (vars : Vars)
    (log : List Event) : Location → Prop
  | .ask .additionalMhz => Blank vars ∧ ¬ Usable log
  | .ask .retryFrequency => Blank vars ∧ ¬ Usable log
  | .ask .frequencyChoice =>
      Entered log vars.mhz ∧ Usable log ∧
        ∃ mhz,
          strlong vars.mhz = some mhz ∧
            vars.littleTargetMhz = some (stock.littleStockMhz + mhz) ∧
            vars.bigTargetMhz = some (stock.bigStockMhz + mhz)
  | .cancelled => True
  | _ => Tuned stock vars log

theorem frequencyInvariant_of_configured
    {stock : Stock}
    {vars : Vars}
    {log : List Event}
    {location : Location}
    (behind : location.configured = true)
    (tuned : Tuned stock vars log) :
    FrequencyInvariant stock vars log location := by
  cases location with
  | ask prompt =>
      cases prompt with
      | additionalMhz | retryFrequency | frequencyChoice =>
          cases behind
      | _ =>
          exact tuned
  | cancelled =>
      trivial
  | build =>
      exact tuned

/-- A line makes a session usable by entering a readable number. -/
theorem usable_answered
    (log : List Event)
    (prompt : Prompt)
    (line : Text) :
    Usable (log ++ [.answered prompt line]) ↔
      Usable log ∨
        prompt.accepts (readStrip line) = true ∧
          ¬ Unreadable (readStrip line) := by
  cases taken : prompt.accepts (readStrip line) with
  | false =>
      simp [Usable, entries_refused taken]
  | true =>
      simp only [Usable, entries_append, entries_accepted taken]
      simp [or_and_right, exists_or]

/-- One line behind the frequency menu keeps the frequency in tune. -/
theorem FrequencyStep.tuned
    {stock : Stock}
    {before after : Vars}
    {log : List Event}
    {prompt : Prompt}
    {line : Text}
    (tuned : Tuned stock before log)
    (step :
      FrequencyStep stock before (readStrip line)
        (prompt.accepts (readStrip line)) after) :
    Tuned stock after (log ++ [.answered prompt line]) := by
  have usable := usable_answered log prompt line
  cases step with
  | kept refused same =>
      refine ⟨?_, ?_, ?_⟩
      · rw [same.mhz]
        exact tuned.entered.append _
      · intro mhz read
        rw [same.mhz] at read
        exact (tuned.evaluated mhz read).same same
      · rw [usable, refused]
        rcases tuned.source with ⟨⟨mhz, configured⟩, used⟩ | ⟨blank, unused⟩
        · exact .inl ⟨⟨mhz, configured.same same⟩, .inl used⟩
        · exact .inr ⟨blank.same same, by simp [unused]⟩
  | entered mhz taken read stored configured =>
      have readable :=
        (strlong_eq_none_iff_of_accepts taken).not.mp (by simp [read])
      refine ⟨?_, ?_, ?_⟩
      · rw [stored]
        exact entered_answered log taken
      · intro other readOther
        rw [stored, read, Option.some.injEq] at readOther
        rw [← readOther]
        exact configured
      · exact .inl
          ⟨⟨mhz, configured⟩, usable.mpr (.inr ⟨taken, readable⟩)⟩
  | abandoned taken unread same =>
      have unreadable :=
        (strlong_eq_none_iff_of_accepts taken).mp unread
      refine ⟨?_, ?_, ?_⟩
      · rw [same.mhz]
        exact entered_answered log taken
      · intro mhz read
        rw [same.mhz, unread] at read
        cases read
      · have others : Usable (log ++ [.answered prompt line]) ↔ Usable log := by
          simp [usable, unreadable]
        rw [others]
        rcases tuned.source with ⟨⟨mhz, configured⟩, used⟩ | ⟨blank, unused⟩
        · refine .inl ⟨⟨mhz, ?_⟩, used⟩
          exact ⟨same.addHz.trans configured.addHz,
            same.littleTargetMhz.trans configured.littleTargetMhz,
            same.bigTargetMhz.trans configured.bigTargetMhz⟩
        · refine .inr ⟨?_, unused⟩
          exact ⟨same.addHz.trans blank.addHz,
            same.littleTargetMhz.trans blank.littleTargetMhz,
            same.bigTargetMhz.trans blank.bigTargetMhz⟩

theorem usable_extend (next : Reply) (log : List Event) :
    Usable (next.extend log) ↔ Usable log := by
  rw [Usable, entries_extend, Usable]

theorem Tuned.extend
    {stock : Stock}
    {vars : Vars}
    {log : List Event}
    (tuned : Tuned stock vars log)
    (next : Reply) :
    Tuned stock vars (next.extend log) :=
  ⟨(entered_extend next log _).mpr tuned.entered, tuned.evaluated, by
    rw [usable_extend]
    exact tuned.source⟩

/-- One line at any prompt keeps the frequency invariant. -/
theorem reply_frequencyInvariant
    {stock : Stock}
    {vars : Vars}
    {log : List Event}
    {prompt : Prompt}
    (line : Text)
    (invariant : FrequencyInvariant stock vars log (.ask prompt)) :
    FrequencyInvariant stock
      (reply stock vars line prompt).vars
      ((reply stock vars line prompt).extend
        (log ++ [.answered prompt line]))
      (reply stock vars line prompt).location := by
  have usable := usable_answered log prompt line
  cases early : prompt.early with
  | false =>
      have tuned : Tuned stock vars log := by
        cases prompt <;>
          first
            | exact invariant
            | cases early
      exact frequencyInvariant_of_configured
        (reply_configured stock vars line early)
        (((reply_frequencyStep stock vars line early).tuned tuned).extend _)
  | true =>
      cases prompt with
      | additionalMhz =>
          obtain ⟨blank, unused⟩ := invariant
          simp only [reply]
          cases rejected : rejectsMhz (readStrip line) with
          | true =>
              refine ⟨⟨blank.addHz, blank.littleTargetMhz,
                blank.bigTargetMhz⟩, ?_⟩
              rw [usable_extend, usable]
              simp [unused, Prompt.accepts, rejected]
          | false =>
              have taken :
                  Prompt.accepts .additionalMhz (readStrip line) = true := by
                simp [Prompt.accepts, rejected]
              cases read : strlong (readStrip line) with
              | some mhz =>
                  have readable :=
                    (strlong_eq_none_iff_of_accepts taken).not.mp
                      (by simp [read])
                  refine ⟨(entered_extend _ _ _).mpr
                    (entered_answered log taken), ?_, mhz, read, rfl, rfl⟩
                  rw [usable_extend, usable]
                  exact .inr ⟨taken, readable⟩
              | none =>
                  have unreadable :=
                    (strlong_eq_none_iff_of_accepts taken).mp read
                  refine ⟨(entered_extend _ _ _).mpr
                    (entered_answered log taken), ?_, .inr ⟨?_, ?_⟩⟩
                  · intro mhz evaluated
                    exact absurd (read.symm.trans evaluated)
                      (Option.some_ne_none _).symm
                  · exact ⟨blank.addHz, blank.littleTargetMhz,
                      blank.bigTargetMhz⟩
                  · rw [usable_extend, usable]
                    simp [unused, unreadable]
      | retryFrequency =>
          obtain ⟨blank, unused⟩ := invariant
          refine ⟨blank, ?_⟩
          rw [usable_extend, usable]
          simp [unused, Prompt.accepts]
      | frequencyChoice =>
          obtain ⟨entered, used, mhz, read, little, big⟩ := invariant
          have stillEntered (next : Reply) :
              Entered (next.extend
                (log ++ [.answered .frequencyChoice line])) vars.mhz :=
            (entered_extend next _ _).mpr (entered.append _)
          have stillUsed (next : Reply) :
              Usable (next.extend
                (log ++ [.answered .frequencyChoice line])) := by
            rw [usable_extend, usable]
            exact .inl used
          simp only [reply]
          by_cases yes : lowercase (readStrip line) = ['y']
          · simp only [yes, read, ↓reduceIte]
            refine ⟨stillEntered _, ?_,
              .inl ⟨⟨mhz, rfl, little, big⟩, stillUsed _⟩⟩
            intro other evaluated
            rw [Reply.voltageMenu_vars] at evaluated ⊢
            rw [← Option.some.inj (read.symm.trans evaluated)]
            exact ⟨rfl, little, big⟩
          · by_cases back : lowercase (readStrip line) = ['k']
            · simp only [back, ↓reduceIte]
              rw [if_neg (by decide)]
              trivial
            · simp only [yes, back, ↓reduceIte]
              exact ⟨stillEntered _, stillUsed _, mhz, read, little, big⟩
      | _ =>
          cases early

/-- The frequency invariant holds in every session. -/
theorem reachable_frequencyInvariant
    {stock : Stock}
    {location : Location}
    {vars : Vars}
    {log : List Event}
    (reached : Reachable stock location vars log) :
    FrequencyInvariant stock vars log location := by
  induction reached with
  | start =>
      exact ⟨⟨rfl, rfl, rfl⟩, by simp [Usable, entries, Event.entry?]⟩
  | answer line _ inductionHypothesis =>
      exact reply_frequencyInvariant line inductionHypothesis

/-! ## What the summary shows and the build uses -/

/-- The state was shown as a summary, or handed to the apply stage. -/
def Submitted (result : Flow × MenuWorld) (vars : Vars) : Prop :=
  .printed .summaryScreen vars ∈ result.2.log ∨
    result.1 = .next ∧ vars = result.2.vars

/-- Summaries and builds happen behind the frequency menu. -/
theorem submitted_tuned
    {stock : Stock}
    {lines : List Text}
    {vars : Vars}
    (submitted : Submitted (runMenus stock lines) vars) :
    ∃ log,
      log <+: (runMenus stock lines).2.log ∧ Tuned stock vars log := by
  obtain ⟨last, ended, reached⟩ := runMenus_reachable stock lines
  rcases submitted with shown | ⟨built, rfl⟩
  · obtain ⟨earlier, before, atSummary⟩ :=
      summaryScreen_reachable reached shown
    exact ⟨earlier, before, reachable_frequencyInvariant atSummary⟩
  · rw [ended] at built
    cases last with
    | ask prompt | cancelled =>
        cases built
    | build =>
        exact ⟨_, List.prefix_rfl, reachable_frequencyInvariant reached⟩

/-- The frequency variables are those of the decimal value of `MHZ`. -/
structure FrequencyAgrees (stock : Stock) (vars : Vars) : Prop where
  positive : 1 ≤ numeral 10 vars.mhz
  bounded : numeral 10 vars.mhz ≤ 500
  addHz :
    vars.addHz = some (Int64.ofNat (numeral 10 vars.mhz * 1000000))
  littleTargetMhz :
    vars.littleTargetMhz =
      some (stock.littleStockMhz + Int64.ofNat (numeral 10 vars.mhz))
  bigTargetMhz :
    vars.bigTargetMhz =
      some (stock.bigStockMhz + Int64.ofNat (numeral 10 vars.mhz))

/--
Both readers of bash take the text for one number: `[` can represent it, and
`$(( ))` reads its decimal value.
-/
structure PlainMhz (text : Text) : Prop where
  inRange : numeral 10 text < intmaxLimit
  alike : ReadsAlike text

/-- Below 2^63, the first prompt lets exactly 1 to 500 pass. -/
theorem bounds_of_not_rejectsMhz
    {text : Text}
    (accepted : rejectsMhz text = false)
    (inRange : numeral 10 text < intmaxLimit) :
    1 ≤ numeral 10 text ∧ numeral 10 text ≤ 500 := by
  simp only [rejectsMhz, Bool.or_eq_false_iff] at accepted
  obtain ⟨⟨-, notZero⟩, notAbove⟩ := accepted
  rw [Bool.eq_false_iff, Ne, testEq_iff] at notZero
  rw [Bool.eq_false_iff, Ne, testGt_iff] at notAbove
  have positive : numeral 10 text ≠ 0 :=
    fun zero => notZero ⟨inRange, zero⟩
  have bounded : ¬ 500 < numeral 10 text :=
    fun above => notAbove ⟨inRange, above⟩
  omega

/-- What both readers take alike, `$(( ))` can read. -/
theorem PlainMhz.readable
    {text : Text}
    (plain : PlainMhz text)
    (decimal : isDecimal text = true) :
    ¬ Unreadable text := by
  rw [← strlong_eq_none_iff decimal,
    strlong_of_readsAlike decimal plain.alike]
  exact Option.some_ne_none _

/--
Behind an accepted text that `$(( ))` can read, the variables agree with its
decimal value exactly if both readers take it for one number.
-/
theorem Tuned.frequencyAgrees_iff
    {stock : Stock}
    {vars : Vars}
    {log : List Event}
    (tuned : Tuned stock vars log)
    (readable : ¬ Unreadable vars.mhz) :
    FrequencyAgrees stock vars ↔ PlainMhz vars.mhz := by
  have accepted := tuned.entered.rejectsMhz
  have decimal := isDecimal_of_not_rejectsMhz accepted
  refine ⟨?_, ?_⟩
  · intro agrees
    have inRange : numeral 10 vars.mhz < intmaxLimit :=
      Nat.lt_of_le_of_lt agrees.bounded (by decide)
    rw [← strlong_eq_none_iff decimal] at readable
    obtain ⟨mhz, read⟩ := Option.ne_none_iff_exists'.mp readable
    have targets :
        stock.littleStockMhz + mhz =
          stock.littleStockMhz + Int64.ofNat (numeral 10 vars.mhz) :=
      Option.some.inj <|
        ((tuned.evaluated mhz read).littleTargetMhz).symm.trans
          agrees.littleTargetMhz
    have same : mhz = Int64.ofNat (numeral 10 vars.mhz) := by
      grind
    rw [same] at read
    exact ⟨inRange, (strlong_eq_numeral_iff decimal inRange).mp read⟩
  · intro plain
    obtain ⟨positive, bounded⟩ :=
      bounds_of_not_rejectsMhz accepted plain.inRange
    have configured :=
      tuned.evaluated _ (strlong_of_readsAlike decimal plain.alike)
    refine ⟨positive, bounded, ?_, configured.littleTargetMhz,
      configured.bigTargetMhz⟩
    rw [configured.addHz, Int64.ofNat_mul]
    rfl

/--
In every session whose accepted texts both readers of bash take for the same
number, every summary and the build use `MHZ` as the number it shows, which is
one of 1 to 500.
-/
theorem submitted_frequencyAgrees
    (stock : Stock)
    (lines : List Text)
    (plain :
      ∀ entry ∈ entries (runMenus stock lines).2.log, PlainMhz entry.2)
    (vars : Vars)
    (submitted : Submitted (runMenus stock lines) vars) :
    FrequencyAgrees stock vars := by
  obtain ⟨log, before, tuned⟩ := submitted_tuned submitted
  obtain ⟨prompt, member⟩ := tuned.entered
  have shown : PlainMhz vars.mhz :=
    plain _ ((before.filterMap Event.entry?).subset member)
  have decimal := isDecimal_of_not_rejectsMhz tuned.entered.rejectsMhz
  exact (tuned.frequencyAgrees_iff (shown.readable decimal)).mpr shown

/-- Fifty MHz from the README, confirmed with the stock voltages. -/
def fiftyMhz : Vars :=
  { Vars.initial readmeStock with
    mhz := "50".toList
    addHz := some 50000000
    littleTargetMhz := some 1850
    bigTargetMhz := some 2050
    choice := "n".toList }

theorem submitted_frequencyAgrees_fiftyMhz :
    FrequencyAgrees readmeStock fiftyMhz := by
  have session :
      entries
          (runMenus readmeStock
            ["50".toList, "y".toList, "n".toList]).2.log =
        [(.additionalMhz, "50".toList)] := by
    decide +kernel
  refine submitted_frequencyAgrees readmeStock
    ["50".toList, "y".toList, "n".toList] ?_ fiftyMhz
    (.inl (by decide +kernel))
  rw [session]
  intro entry member
  rw [List.mem_singleton] at member
  subst member
  exact ⟨by decide +kernel, by decide +kernel⟩

/-- `0100` passes the first prompt as one hundred and is added as 64. -/
theorem octal_not_frequencyAgrees :
    ¬ ∀ vars,
      Submitted
          (runMenus readmeStock ["0100".toList, "y".toList, "n".toList])
          vars →
        FrequencyAgrees readmeStock vars := by
  intro agrees
  have added :=
    (agrees
      { fiftyMhz with
        mhz := "0100".toList
        addHz := some 64000000
        littleTargetMhz := some 1864
        bigTargetMhz := some 2064 }
      (.inl (by decide +kernel))).addHz
  revert added
  decide +kernel

end OverclockBuilder
