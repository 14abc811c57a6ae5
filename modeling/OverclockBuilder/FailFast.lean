import Mathlib.Data.List.Basic

namespace FailFast

/-!
# Scripts that stop at the first failing command

Under `set -e` a script is a list of commands of which each one succeeds or
fails, and a failing command ends the script.  What a command does to the state
is a relation, because a failing command may leave its work half done.
-/

variable {Command State : Type}

/-- How a command ends. -/
inductive Status where
  | success
  | failure
  deriving Repr, DecidableEq

/-- The state changes of a command, for each way it can end. -/
abbrev Effects (Command State : Type) :=
  Command → Status → State → State → Prop

/--
A run of a script.  The last argument is the command it stopped at, or nothing
when it reached the end.
-/
inductive Runs (effects : Effects Command State) :
    List Command → State → State → Option Command → Prop where
  | finished
      (state : State) :
      Runs effects [] state state none
  | stopped
      {command : Command}
      {before after : State}
      (rest : List Command)
      (effect : effects command .failure before after) :
      Runs effects (command :: rest) before after (some command)
  | continued
      {command : Command}
      {rest : List Command}
      {before between after : State}
      {outcome : Option Command}
      (effect : effects command .success before between)
      (later : Runs effects rest between after outcome) :
      Runs effects (command :: rest) before after outcome

variable {effects : Effects Command State}

/-- A script stops at one of its own commands. -/
theorem Runs.stopped_mem
    {script : List Command}
    {before after : State}
    {command : Command}
    (runs : Runs effects script before after (some command)) :
    command ∈ script := by
  generalize outcome : some command = stop at runs
  induction runs with
  | finished =>
      cases outcome
  | stopped rest effect =>
      obtain rfl := Option.some.inj outcome
      exact List.mem_cons_self
  | continued effect later inductionHypothesis =>
      exact List.mem_cons_of_mem _ (inductionHypothesis outcome)

/-- A relation that every effect keeps holds of every run. -/
theorem Runs.invariant
    (relation : State → State → Prop)
    (reflexive : ∀ state, relation state state)
    (transitive :
      ∀ {first second third},
        relation first second → relation second third →
          relation first third)
    {script : List Command}
    (kept :
      ∀ command ∈ script, ∀ status before after,
        effects command status before after → relation before after)
    {before after : State}
    {outcome : Option Command}
    (runs : Runs effects script before after outcome) :
    relation before after := by
  induction runs with
  | finished state =>
      exact reflexive state
  | stopped rest effect =>
      exact kept _ List.mem_cons_self _ _ _ effect
  | continued effect later inductionHypothesis =>
      refine transitive (kept _ List.mem_cons_self _ _ _ effect) ?_
      exact inductionHypothesis fun command member =>
        kept command (List.mem_cons_of_mem _ member)

/-- A run of two scripts stops in the first or runs the second. -/
theorem Runs.append_inv
    {front back : List Command}
    {before after : State}
    {outcome : Option Command}
    (runs : Runs effects (front ++ back) before after outcome) :
    (∃ command,
        outcome = some command ∧
          Runs effects front before after (some command)) ∨
      ∃ between,
        Runs effects front before between none ∧
          Runs effects back between after outcome := by
  induction front generalizing before with
  | nil =>
      exact .inr ⟨before, .finished before, runs⟩
  | cons command rest inductionHypothesis =>
      cases runs with
      | stopped _ effect =>
          exact .inl ⟨command, rfl, .stopped rest effect⟩
      | continued effect later =>
          rcases inductionHypothesis later with
            ⟨stop, isStop, stopped⟩ | ⟨between, finished, behind⟩
          · exact .inl ⟨stop, isStop, .continued effect stopped⟩
          · exact .inr ⟨between, .continued effect finished, behind⟩

/-- Two scripts run one after the other. -/
theorem Runs.append
    {front back : List Command}
    {before between after : State}
    {outcome : Option Command}
    (first : Runs effects front before between none)
    (second : Runs effects back between after outcome) :
    Runs effects (front ++ back) before after outcome := by
  generalize finished : (none : Option Command) = end_ at first
  induction first with
  | finished state =>
      exact second
  | stopped rest effect =>
      cases finished
  | continued effect later inductionHypothesis =>
      exact .continued effect (inductionHypothesis second finished)

end FailFast
