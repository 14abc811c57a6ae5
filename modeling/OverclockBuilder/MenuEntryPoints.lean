import OverclockBuilder.MenuSteps
import OverclockBuilder.MenuVoltage

namespace OverclockBuilder

open RadixText BashText ShellFlow

/-!
# One value, several prompts

The first frequency prompt and the dialogue of the voltage menu reject by a
disjunction of failed checks; the other prompts accept by a conjunction of
passed ones.  A `[ ]` whose operand does not fit into 64 bits returns an error
status, which fails a check and does not reject, so the two forms part on
exactly the decimal numbers from `2 ^ 63` on.
-/

/-- The messages that turn an entered value down. -/
def Output.refuses : Output → Bool
  | .invalidMhz => true
  | .invalidLittle => true
  | .invalidBig => true
  | .invalidVoltage => true
  | _ => false

/-- The reply turns the entered value down. -/
def Reply.refused (next : Reply) : Bool :=
  next.printed.any Output.refuses

/-- Entering the lines from a prompt on gets a value turned down. -/
def Refuses
    (stock : Stock)
    (vars : Vars)
    (prompt : Prompt)
    (lines : List Text) :
    Bool :=
  (steps stock lines (.ask prompt) vars).any fun step => step.next.refused

/-! ## Frequencies -/

/-- A decimal text whose number does not fit into 64 bits. -/
def Oversized (text : Text) : Prop :=
  isDecimal text = true ∧ intmaxLimit ≤ numeral 10 text

instance (text : Text) : Decidable (Oversized text) :=
  inferInstanceAs (Decidable (_ ∧ _))

/-- The first frequency prompt lets oversized numbers pass. -/
theorem rejectsMhz_eq_false_iff (text : Text) :
    rejectsMhz text = false ↔
      isDecimal text = true ∧
        (intmaxLimit ≤ numeral 10 text ∨
          0 < numeral 10 text ∧ numeral 10 text ≤ 500) := by
  have limit : 500 < intmaxLimit := by decide
  simp only [rejectsMhz, Bool.or_eq_false_iff, Bool.not_eq_false']
  rw [and_assoc]
  refine and_congr_right fun _ => ?_
  simp only [Bool.eq_false_iff, Ne, testEq_iff, testGt_iff]
  omega

/-- The frequency re-entry prompts accept the numbers from 1 to 500. -/
theorem acceptsMhz_iff (text : Text) :
    acceptsMhz text = true ↔
      isDecimal text = true ∧
        0 < numeral 10 text ∧ numeral 10 text ≤ 500 := by
  have limit : 500 < intmaxLimit := by decide
  simp only [acceptsMhz, Bool.and_eq_true, testGt_iff, testLe_iff]
  rw [and_assoc]
  refine and_congr_right fun _ => ?_
  omega

/-- The two forms of the frequency check part on oversized numbers. -/
theorem mhzChecks_agree_iff (text : Text) :
    rejectsMhz text = !acceptsMhz text ↔ ¬ Oversized text := by
  have limit : 500 < intmaxLimit := by decide
  have negated :
      rejectsMhz text = !acceptsMhz text ↔
        (rejectsMhz text = false ↔ acceptsMhz text = true) := by
    cases rejectsMhz text <;>
      cases acceptsMhz text <;>
      simp
  rw [negated, rejectsMhz_eq_false_iff, acceptsMhz_iff, Oversized]
  by_cases decimal : isDecimal text = true
  · simp only [decimal, true_and]
    omega
  · simp [decimal]

/-! ## Voltages -/

/-- A decimal text of a positive number. -/
def IsPositive (text : Text) : Prop :=
  isDecimal text = true ∧ 0 < numeral 10 text

/-- The voltage menu lets oversized numbers pass. -/
theorem rejectsVoltage_eq_false_iff (text : Text) :
    rejectsVoltage text = false ↔ IsPositive text := by
  have limit : 0 < intmaxLimit := by decide
  simp only [rejectsVoltage, Bool.or_eq_false_iff, Bool.not_eq_false']
  refine and_congr_right fun _ => ?_
  simp only [Bool.eq_false_iff, Ne, testEq_iff]
  omega

theorem acceptsVoltages_iff (little big : Text) :
    acceptsVoltages little big = true ↔
      (IsPositive little ∧ numeral 10 little < intmaxLimit) ∧
        IsPositive big ∧ numeral 10 big < intmaxLimit := by
  simp only [acceptsVoltages, IsPositive, Bool.and_eq_true, testGt_iff]
  tauto

/-- The two forms of the voltage check part on pairs with a huge number. -/
theorem voltageChecks_agree_iff (little big : Text) :
    ((rejectsVoltage little || rejectsVoltage big) =
        !acceptsVoltages little big) ↔
      (IsPositive little → IsPositive big →
        ¬ Oversized little ∧ ¬ Oversized big) := by
  have refused
      (notPositive : ¬ (IsPositive little ∧ IsPositive big)) :
      acceptsVoltages little big = false := by
    rw [Bool.eq_false_iff, Ne, acceptsVoltages_iff]
    tauto
  cases littleRejected : rejectsVoltage little with
  | true =>
      have notLittle := (rejectsVoltage_eq_false_iff little).not.mp
        (by simp [littleRejected])
      simp [refused fun both => notLittle both.1, notLittle]
  | false =>
      cases bigRejected : rejectsVoltage big with
      | true =>
          have notBig := (rejectsVoltage_eq_false_iff big).not.mp
            (by simp [bigRejected])
          simp [refused fun both => notBig both.2, notBig]
      | false =>
          have littlePositive :=
            (rejectsVoltage_eq_false_iff little).mp littleRejected
          have bigPositive :=
            (rejectsVoltage_eq_false_iff big).mp bigRejected
          -- both forms accept, unless a number is oversized
          have fits :
              acceptsVoltages little big = true ↔
                numeral 10 little < intmaxLimit ∧
                  numeral 10 big < intmaxLimit := by
            rw [acceptsVoltages_iff]
            tauto
          rw [Bool.or_self, eq_comm, Bool.not_eq_false', fits, Oversized,
            Oversized]
          simp [littlePositive, bigPositive, littlePositive.1, bigPositive.1]

/-! ## Prompts and dialogues -/

theorem refuses_single
    (stock : Stock)
    (vars : Vars)
    (prompt : Prompt)
    (line : Text) :
    Refuses stock vars prompt [line] =
      (reply stock vars line prompt).refused := by
  rw [Refuses, steps_cons]
  cases (reply stock vars line prompt).location <;>
    simp [steps]

private theorem endVoltageMenu_refused (vars : Vars) :
    (Reply.endVoltageMenu vars).refused = false := by
  unfold Reply.endVoltageMenu
  split <;> rfl

private theorem endSummary_refused (vars : Vars) :
    (Reply.endSummary vars).refused = false := by
  unfold Reply.endSummary
  split <;> rfl

theorem refuses_additionalMhz
    (stock : Stock)
    (vars : Vars)
    (line : Text) :
    Refuses stock vars .additionalMhz [line] =
      rejectsMhz (readStrip line) := by
  rw [refuses_single]
  simp only [reply]
  cases rejectsMhz (readStrip line) with
  | true =>
      rfl
  | false =>
      cases strlong (readStrip line) <;>
        rfl

/-- Both re-entry prompts decide by the accepting check. -/
theorem refused_replyNewMhz
    (stock : Stock)
    (vars : Vars)
    (answer : Text)
    {accept abandon reject : Vars → Reply}
    (accepts : ∀ vars, (accept vars).refused = false)
    (abandons : ∀ vars, (abandon vars).refused = false) :
    (replyNewMhz stock vars answer accept abandon reject).refused =
      !acceptsMhz answer := by
  unfold replyNewMhz
  cases acceptsMhz answer with
  | true =>
      cases strlong answer with
      | some mhz =>
          exact accepts _
      | none =>
          exact abandons _
  | false =>
      rfl

theorem refuses_voltageNewMhz
    (stock : Stock)
    (vars : Vars)
    (line : Text) :
    Refuses stock vars .voltageNewMhz [line] =
      !acceptsMhz (readStrip line) :=
  (refuses_single stock vars _ line).trans
    (refused_replyNewMhz stock vars _ endVoltageMenu_refused fun _ => rfl)

theorem refuses_summaryNewMhz
    (stock : Stock)
    (vars : Vars)
    (line : Text) :
    Refuses stock vars .summaryNewMhz [line] =
      !acceptsMhz (readStrip line) :=
  (refuses_single stock vars _ line).trans
    (refused_replyNewMhz stock vars _ endSummary_refused fun _ => rfl)

/-- The dialogue of the voltage menu, unless it is left with `K`. -/
theorem refuses_littleVoltage
    (stock : Stock)
    (vars : Vars)
    {little big : Text}
    (littleStays : isBack (readStrip little) = false)
    (bigStays : isBack (readStrip big) = false) :
    Refuses stock vars .littleVoltage [little, big] =
      (rejectsVoltage (readStrip little) ||
        rejectsVoltage (readStrip big)) := by
  rw [Refuses, steps_cons, List.any_cons]
  cases littleRejected : rejectsVoltage (readStrip little) with
  | true =>
      simp [reply, littleStays, littleRejected, Reply.refused, Output.refuses]
  | false =>
      have asked :
          reply stock vars little .littleVoltage =
            ⟨{ vars with littleInput := readStrip little }, [],
              .ask .bigVoltage⟩ := by
        simp [reply, littleStays, littleRejected]
      have second :=
        refuses_single stock { vars with littleInput := readStrip little }
          .bigVoltage big
      rw [asked]
      refine second.trans ?_
      cases bigRejected : rejectsVoltage (readStrip big) with
      | true =>
          simp [reply, bigStays, bigRejected, Reply.refused, Output.refuses]
      | false =>
          simp [reply, bigStays, bigRejected, endVoltageMenu_refused]

/-- The dialogue of the summary. -/
theorem refuses_summaryLittle
    (stock : Stock)
    (vars : Vars)
    (little big : Text) :
    Refuses stock vars .summaryLittle [little, big] =
      !acceptsVoltages (readStrip little) (readStrip big) := by
  have second :=
    refuses_single stock { vars with littleInput := readStrip little }
      .summaryBig big
  refine second.trans ?_
  simp only [reply]
  cases acceptsVoltages (readStrip little) (readStrip big) with
  | true =>
      exact endSummary_refused _
  | false =>
      rfl

/-- The three frequency prompts turn down the same lines. -/
def FrequencyPromptsAgree (stock : Stock) (line : Text) : Prop :=
  ∀ first second third,
    Refuses stock first .additionalMhz [line] =
        Refuses stock second .voltageNewMhz [line] ∧
      Refuses stock first .additionalMhz [line] =
        Refuses stock third .summaryNewMhz [line]

/-- Both voltage dialogues turn down the same pairs. -/
def VoltageDialoguesAgree (stock : Stock) (little big : Text) : Prop :=
  ∀ first second,
    Refuses stock first .littleVoltage [little, big] =
      Refuses stock second .summaryLittle [little, big]

/--
When the entry points agree.

The frequency prompts part on the oversized numbers, the voltage dialogues on
the pairs of positive numbers of which one is oversized.
-/
theorem entryPoints_agree_iff (stock : Stock) :
    (∀ line,
      FrequencyPromptsAgree stock line ↔ ¬ Oversized (readStrip line)) ∧
      ∀ little big,
        isBack (readStrip little) = false →
        isBack (readStrip big) = false →
          (VoltageDialoguesAgree stock little big ↔
            (IsPositive (readStrip little) →
              IsPositive (readStrip big) →
                ¬ Oversized (readStrip little) ∧
                  ¬ Oversized (readStrip big))) := by
  have inhabited : Nonempty Vars := ⟨Vars.initial stock⟩
  refine ⟨?_, ?_⟩
  · intro line
    simp only [FrequencyPromptsAgree, refuses_additionalMhz,
      refuses_voltageNewMhz, refuses_summaryNewMhz, and_self, forall_const]
    exact mhzChecks_agree_iff _
  · intro little big littleStays bigStays
    simp only [VoltageDialoguesAgree,
      refuses_littleVoltage _ _ littleStays bigStays, refuses_summaryLittle,
      forall_const]
    exact voltageChecks_agree_iff _ _

/-- The agreement on one line and on one pair. -/
theorem entryPoints_agree_example :
    FrequencyPromptsAgree readmeStock "50".toList ∧
      VoltageDialoguesAgree readmeStock "1006250".toList
        "1087500".toList := by
  obtain ⟨frequency, voltage⟩ := entryPoints_agree_iff readmeStock
  refine ⟨(frequency _).mpr (by decide +kernel), ?_⟩
  refine (voltage _ _ (by decide +kernel) (by decide +kernel)).mpr ?_
  intro _ _
  exact ⟨by decide +kernel, by decide +kernel⟩

/-- Twenty nines pass the first prompt and no other. -/
theorem entryPoints_not_agree :
    Refuses readmeStock (Vars.initial readmeStock) .additionalMhz
        ["99999999999999999999".toList] = false ∧
      Refuses readmeStock (Vars.initial readmeStock) .voltageNewMhz
        ["99999999999999999999".toList] = true ∧
      ¬ FrequencyPromptsAgree readmeStock
          "99999999999999999999".toList ∧
      ¬ VoltageDialoguesAgree readmeStock
          "99999999999999999999".toList "1087500".toList := by
  refine ⟨by decide +kernel, by decide +kernel, ?_, ?_⟩
  · intro agree
    exact absurd
      (agree (Vars.initial readmeStock) (Vars.initial readmeStock)
        (Vars.initial readmeStock)).1 (by decide +kernel)
  · intro agree
    exact absurd
      (agree (Vars.initial readmeStock) (Vars.initial readmeStock))
      (by decide +kernel)

end OverclockBuilder
