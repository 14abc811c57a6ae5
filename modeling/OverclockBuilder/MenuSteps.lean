import OverclockBuilder.MenuReachable

namespace OverclockBuilder

open RadixText BashText ShellFlow

/-!
# The steps of a session

A session is the list of its answered lines, each with the state it was read
in and what the script did with it.  Every step of a session starts in a
reachable state, so what holds of one line at every reachable state holds of
all steps of all sessions.
-/

/-- One answered line and what the script did with it. -/
structure Step where
  prompt : Prompt
  before : Vars
  line : Text
  next : Reply
  deriving Repr, DecidableEq

namespace Step

/-- The text `read` stores. -/
def answer (step : Step) : Text :=
  readStrip step.line

end Step

/-- The steps that lines make from a location. -/
def steps (stock : Stock) : List Text → Location → Vars → List Step
  | line :: rest, .ask prompt, vars =>
      let next := reply stock vars line prompt
      ⟨prompt, vars, line, next⟩ :: steps stock rest next.location next.vars
  | _, _, _ => []

/-- The steps of a whole run of the menus. -/
def sessionSteps (stock : Stock) (lines : List Text) : List Step :=
  steps stock lines (.ask .additionalMhz) (Vars.initial stock)

theorem steps_cons
    (stock : Stock)
    (line : Text)
    (rest : List Text)
    (prompt : Prompt)
    (vars : Vars) :
    steps stock (line :: rest) (.ask prompt) vars =
      ⟨prompt, vars, line, reply stock vars line prompt⟩ ::
        steps stock rest (reply stock vars line prompt).location
          (reply stock vars line prompt).vars := rfl

/-- A step of the machine in a reachable state. -/
structure Step.Reached (stock : Stock) (step : Step) : Prop where
  next : step.next = reply stock step.before step.line step.prompt
  before : ∃ log, Reachable stock (.ask step.prompt) step.before log

private theorem reached_of_mem_steps
    {stock : Stock}
    {lines : List Text}
    {location : Location}
    {vars : Vars}
    {log : List Event}
    {step : Step}
    (reached : Reachable stock location vars log)
    (member : step ∈ steps stock lines location vars) :
    step.Reached stock := by
  induction lines generalizing location vars log with
  | nil =>
      cases location <;>
        simp [steps] at member
  | cons line rest inductionHypothesis =>
      cases location with
      | ask prompt =>
          rw [steps_cons, List.mem_cons] at member
          rcases member with rfl | later
          · exact ⟨rfl, log, reached⟩
          · exact inductionHypothesis (reached.answer line) later
      | cancelled | build =>
          simp [steps] at member

/-- Every step of a session starts in a reachable state. -/
theorem sessionSteps_reached
    {stock : Stock}
    {lines : List Text}
    {step : Step}
    (member : step ∈ sessionSteps stock lines) :
    step.Reached stock :=
  reached_of_mem_steps .start member

end OverclockBuilder
