import Mathlib.Data.List.Basic

namespace ShellFlow

/-!
# Control flow of a line-reading shell script

Commands transform a world made of the script's variables, the unread input
lines and a log of what the terminal showed and answered.  A command ends by
falling through, by leaving or restarting the enclosing loop, by discarding
the whole top-level command after a failed expansion, or by ending the script.

A loop is run with one iteration more than there are unread lines, which is
enough when every repeated iteration reads a line.  `finish_whileTrue` states
this as one rule: a function of the loop head that satisfies the loop's own
unfolding is what the loop computes.
-/

/-- How one command ended. -/
inductive Flow where
  | next
  | brk
  | cont
  | discard
  | exit (status : Nat)
  | stuck
  deriving Repr, DecidableEq

/-- The state a script threads through its commands. -/
structure World (Vars Line Event : Type) where
  vars : Vars
  input : List Line
  log : List Event
  deriving Repr, DecidableEq

variable {Vars Line Event R : Type}

/-- A command maps a world to its ending and the world it leaves. -/
abbrev Command (Vars Line Event : Type) :=
  World Vars Line Event → Flow × World Vars Line Event

/-- The command that does nothing. -/
def skip : Command Vars Line Event :=
  fun world => (.next, world)

/-- Leave the innermost loop. -/
def breakLoop : Command Vars Line Event :=
  fun world => (.brk, world)

/-- Restart the innermost loop. -/
def continueLoop : Command Vars Line Event :=
  fun world => (.cont, world)

/-- End the script. -/
def exitWith (status : Nat) : Command Vars Line Event :=
  fun world => (.exit status, world)

/-- Assign variables from values that cannot fail to expand. -/
def assign (change : Vars → Vars) : Command Vars Line Event :=
  fun world => (.next, { world with vars := change world.vars })

/--
Assign variables from an arithmetic expansion.

A failed expansion abandons the whole top-level command being executed.
-/
def expand (change : Vars → Option Vars) : Command Vars Line Event :=
  fun world =>
    match change world.vars with
    | some vars =>
        (.next, { world with vars := vars })
    | none =>
        (.discard, world)

/-- Print something that depends on the variables. -/
def emit (event : Vars → Event) : Command Vars Line Event :=
  fun world =>
    (.next, { world with log := world.log ++ [event world.vars] })

/-- Read one line under `errexit`: at end of input the script ends. -/
def readLine
    (event : Line → Event)
    (store : Vars → Line → Vars) :
    Command Vars Line Event :=
  fun world =>
    match world.input with
    | [] =>
        (.exit 1, world)
    | line :: rest =>
        (.next, {
          vars := store world.vars line
          input := rest
          log := world.log ++ [event line] })

/-- Choose between two commands. -/
def branch
    (condition : Vars → Bool)
    (whenTrue whenFalse : Command Vars Line Event) :
    Command Vars Line Event :=
  fun world =>
    if condition world.vars then
      whenTrue world
    else
      whenFalse world

/-- Run the second command only when the first falls through. -/
def seq (first second : Command Vars Line Event) :
    Command Vars Line Event :=
  fun world =>
    match first world with
    | (.next, reached) =>
        second reached
    | ended =>
        ended

/-- A list of commands in order. -/
def block (commands : List (Command Vars Line Event)) :
    Command Vars Line Event :=
  commands.foldr seq skip

/-- `case word in pattern) command ;; ... *) otherwise ;; esac` -/
def caseOf
    {Word : Type}
    [DecidableEq Word]
    (word : Vars → Word)
    (arms : List (Word × Command Vars Line Event))
    (otherwise : Command Vars Line Event) :
    Command Vars Line Event :=
  arms.foldr
    (fun arm rest =>
      branch (fun vars => word vars = arm.1) arm.2 rest)
    otherwise

/-- At most `fuel` iterations of an endless loop. -/
def iterate (body : Command Vars Line Event) :
    Nat → Command Vars Line Event
  | 0, world =>
      (.stuck, world)
  | fuel + 1, world =>
      match body world with
      | (.next, reached) =>
          iterate body fuel reached
      | (.cont, reached) =>
          iterate body fuel reached
      | (.brk, reached) =>
          (.next, reached)
      | ended =>
          ended

/-- `while true; do body; done` -/
def whileTrue (body : Command Vars Line Event) :
    Command Vars Line Event :=
  fun world => iterate body (world.input.length + 1) world

/--
Top-level commands of a script.

A discarded command is followed by the next one; only the end of the script
stops the sequence.
-/
def topLevel :
    List (Command Vars Line Event) → Command Vars Line Event
  | [] =>
      skip
  | command :: rest =>
      fun world =>
        match command world with
        | (.exit status, reached) =>
            (.exit status, reached)
        | (.stuck, reached) =>
            (.stuck, reached)
        | (_, reached) =>
            topLevel rest reached

/-! ## Continuations -/

/-- What happens after a command, for each way it can end. -/
structure Continuation (Vars Line Event R : Type) where
  next : World Vars Line Event → R
  brk : World Vars Line Event → R
  cont : World Vars Line Event → R
  discard : World Vars Line Event → R
  exit : Nat → World Vars Line Event → R
  stuck : World Vars Line Event → R

namespace Continuation

/-- Dispatch on the ending of a command. -/
def resume (after : Continuation Vars Line Event R) :
    Flow × World Vars Line Event → R
  | (.next, world) => after.next world
  | (.brk, world) => after.brk world
  | (.cont, world) => after.cont world
  | (.discard, world) => after.discard world
  | (.exit status, world) => after.exit status world
  | (.stuck, world) => after.stuck world

/-- The continuation of a loop body whose loop head means `head`. -/
def inLoop
    (after : Continuation Vars Line Event R)
    (head : World Vars Line Event → R) :
    Continuation Vars Line Event R :=
  { after with next := head, cont := head, brk := after.next }

/-- Returning the ending itself. -/
def done :
    Continuation Vars Line Event (Flow × World Vars Line Event) where
  next := fun world => (.next, world)
  brk := fun world => (.brk, world)
  cont := fun world => (.cont, world)
  discard := fun world => (.discard, world)
  exit := fun status world => (.exit status, world)
  stuck := fun world => (.stuck, world)

end Continuation

/-- Run a command and hand its ending to a continuation. -/
def finish
    (command : Command Vars Line Event)
    (after : Continuation Vars Line Event R)
    (world : World Vars Line Event) : R :=
  after.resume (command world)

/-- Handing an ending to `done` returns it. -/
theorem finish_done
    (command : Command Vars Line Event)
    (world : World Vars Line Event) :
    finish command .done world = command world := by
  unfold finish
  rcases command world with ⟨flow, reached⟩
  cases flow <;> rfl

section Rules

variable (after : Continuation Vars Line Event R)
variable (world : World Vars Line Event)

@[simp] theorem finish_skip :
    finish skip after world = after.next world := rfl

@[simp] theorem finish_breakLoop :
    finish breakLoop after world = after.brk world := rfl

@[simp] theorem finish_continueLoop :
    finish continueLoop after world = after.cont world := rfl

@[simp] theorem finish_exitWith (status : Nat) :
    finish (exitWith status) after world =
      after.exit status world := rfl

@[simp] theorem finish_assign (change : Vars → Vars) :
    finish (assign change) after world =
      after.next { world with vars := change world.vars } := rfl

@[simp] theorem finish_emit (event : Vars → Event) :
    finish (emit event) after world =
      after.next
        { world with log := world.log ++ [event world.vars] } := rfl

theorem finish_expand (change : Vars → Option Vars) :
    finish (expand change) after world =
      match change world.vars with
      | some vars => after.next { world with vars := vars }
      | none => after.discard world := by
  unfold finish expand
  cases change world.vars <;> rfl

@[simp] theorem finish_branch
    (condition : Vars → Bool)
    (whenTrue whenFalse : Command Vars Line Event) :
    finish (branch condition whenTrue whenFalse) after world =
      if condition world.vars then
        finish whenTrue after world
      else
        finish whenFalse after world := by
  unfold finish branch
  split <;> rfl

@[simp] theorem finish_seq
    (first second : Command Vars Line Event) :
    finish (seq first second) after world =
      finish first
        { after with next := finish second after } world := by
  unfold finish seq
  rcases first world with ⟨flow, reached⟩
  cases flow <;> rfl

@[simp] theorem block_nil :
    block ([] : List (Command Vars Line Event)) = skip := rfl

@[simp] theorem block_cons
    (command : Command Vars Line Event)
    (rest : List (Command Vars Line Event)) :
    block (command :: rest) = seq command (block rest) := rfl

@[simp] theorem caseOf_nil
    {Word : Type}
    [DecidableEq Word]
    (word : Vars → Word)
    (otherwise : Command Vars Line Event) :
    caseOf word [] otherwise = otherwise := rfl

@[simp] theorem caseOf_cons
    {Word : Type}
    [DecidableEq Word]
    (word : Vars → Word)
    (arm : Word × Command Vars Line Event)
    (arms : List (Word × Command Vars Line Event))
    (otherwise : Command Vars Line Event) :
    caseOf word (arm :: arms) otherwise =
      branch (fun vars => word vars = arm.1) arm.2
        (caseOf word arms otherwise) := rfl

@[simp] theorem finish_topLevel_nil :
    finish (topLevel []) after world = after.next world := rfl

/-- Falling through and discarding both reach the next top-level command. -/
theorem finish_topLevel_cons
    (command : Command Vars Line Event)
    (rest : List (Command Vars Line Event)) :
    finish (topLevel (command :: rest)) after world =
      finish command {
        next := finish (topLevel rest) after
        brk := finish (topLevel rest) after
        cont := finish (topLevel rest) after
        discard := finish (topLevel rest) after
        exit := after.exit
        stuck := after.stuck } world := by
  unfold finish
  simp only [topLevel]
  rcases command world with ⟨flow, reached⟩
  cases flow <;> rfl

end Rules

/-! ## Reading

Whether a loop reads a line on every iteration is a property of how its body is
put together, so it is left to instance resolution.
-/

/-- A command that never gives lines back. -/
class Shrinks (command : Command Vars Line Event) : Prop where
  shrinks :
    ∀ world, (command world).2.input.length ≤ world.input.length

/-- A command that has read a line whenever the enclosing loop repeats. -/
class Consumes (command : Command Vars Line Event) : Prop where
  consumes :
    ∀ world,
      (command world).1 = .next ∨ (command world).1 = .cont →
        (command world).2.input.length < world.input.length

/-- A command that always falls through without reading. -/
class Quiet (command : Command Vars Line Event) : Prop where
  quiet :
    ∀ world,
      (command world).1 = .next ∧
        (command world).2.input = world.input

instance : Shrinks (skip : Command Vars Line Event) where
  shrinks := fun _ => Nat.le_refl _

instance : Shrinks (breakLoop : Command Vars Line Event) where
  shrinks := fun _ => Nat.le_refl _

instance : Shrinks (continueLoop : Command Vars Line Event) where
  shrinks := fun _ => Nat.le_refl _

instance (status : Nat) :
    Shrinks (exitWith status : Command Vars Line Event) where
  shrinks := fun _ => Nat.le_refl _

instance (change : Vars → Vars) :
    Shrinks (assign change : Command Vars Line Event) where
  shrinks := fun _ => Nat.le_refl _

instance (event : Vars → Event) :
    Shrinks (emit event : Command Vars Line Event) where
  shrinks := fun _ => Nat.le_refl _

instance (event : Vars → Event) :
    Quiet (emit event : Command Vars Line Event) where
  quiet := fun _ => ⟨rfl, rfl⟩

instance (change : Vars → Option Vars) :
    Shrinks (expand change : Command Vars Line Event) where
  shrinks := by
    intro world
    unfold expand
    cases change world.vars <;> exact Nat.le_refl _

instance (event : Line → Event) (store : Vars → Line → Vars) :
    Shrinks (readLine event store) where
  shrinks := by
    intro world
    unfold readLine
    cases lines : world.input with
    | nil =>
        simp [lines]
    | cons line rest =>
        simp

instance (event : Line → Event) (store : Vars → Line → Vars) :
    Consumes (readLine event store) where
  consumes := by
    intro world repeats
    unfold readLine at repeats ⊢
    cases lines : world.input with
    | nil =>
        simp [lines] at repeats
    | cons line rest =>
        simp

instance
    (condition : Vars → Bool)
    (whenTrue whenFalse : Command Vars Line Event)
    [first : Shrinks whenTrue]
    [second : Shrinks whenFalse] :
    Shrinks (branch condition whenTrue whenFalse) where
  shrinks := by
    intro world
    unfold branch
    split
    · exact first.shrinks world
    · exact second.shrinks world

instance
    (first second : Command Vars Line Event)
    [firstShrinks : Shrinks first]
    [secondShrinks : Shrinks second] :
    Shrinks (seq first second) where
  shrinks := by
    intro world
    have bound := firstShrinks.shrinks world
    unfold seq
    rcases shape : first world with ⟨flow, reached⟩
    rw [shape] at bound
    cases flow with
    | next =>
        exact Nat.le_trans (secondShrinks.shrinks reached) bound
    | brk | cont | discard | exit | stuck =>
        exact bound

/-- Reading first is enough. -/
instance
    (first second : Command Vars Line Event)
    [firstConsumes : Consumes first]
    [secondShrinks : Shrinks second] :
    Consumes (seq first second) where
  consumes := by
    intro world repeats
    have read := firstConsumes.consumes world
    unfold seq at repeats ⊢
    rcases shape : first world with ⟨flow, reached⟩
    simp only [shape] at read repeats ⊢
    cases flow with
    | next =>
        exact Nat.lt_of_le_of_lt
          (secondShrinks.shrinks reached) (read (.inl rfl))
    | cont =>
        exact read (.inr rfl)
    | brk | discard | exit | stuck =>
        rcases repeats with ended | ended <;> cases ended

/-- Printing in front of the read does not matter. -/
instance
    (first second : Command Vars Line Event)
    [firstQuiet : Quiet first]
    [secondConsumes : Consumes second] :
    Consumes (seq first second) where
  consumes := by
    intro world repeats
    obtain ⟨falls, unread⟩ := firstQuiet.quiet world
    unfold seq at repeats ⊢
    rcases shape : first world with ⟨flow, reached⟩
    simp only [shape] at falls unread repeats ⊢
    subst falls
    rw [← unread]
    exact secondConsumes.consumes reached repeats

instance : Shrinks (block ([] : List (Command Vars Line Event))) :=
  inferInstanceAs (Shrinks skip)

instance
    (command : Command Vars Line Event)
    (rest : List (Command Vars Line Event))
    [Shrinks command]
    [Shrinks (block rest)] :
    Shrinks (block (command :: rest)) :=
  inferInstanceAs (Shrinks (seq command (block rest)))

instance
    (command : Command Vars Line Event)
    (rest : List (Command Vars Line Event))
    [Consumes command]
    [Shrinks (block rest)] :
    Consumes (block (command :: rest)) :=
  inferInstanceAs (Consumes (seq command (block rest)))

instance
    (command : Command Vars Line Event)
    (rest : List (Command Vars Line Event))
    [Quiet command]
    [Consumes (block rest)] :
    Consumes (block (command :: rest)) :=
  inferInstanceAs (Consumes (seq command (block rest)))

instance
    {Word : Type}
    [DecidableEq Word]
    (word : Vars → Word)
    (otherwise : Command Vars Line Event)
    [Shrinks otherwise] :
    Shrinks (caseOf word [] otherwise) :=
  inferInstanceAs (Shrinks otherwise)

instance
    {Word : Type}
    [DecidableEq Word]
    (word : Vars → Word)
    (pattern : Word)
    (command : Command Vars Line Event)
    (arms : List (Word × Command Vars Line Event))
    (otherwise : Command Vars Line Event)
    [Shrinks command]
    [Shrinks (caseOf word arms otherwise)] :
    Shrinks (caseOf word ((pattern, command) :: arms) otherwise) :=
  inferInstanceAs
    (Shrinks
      (branch (fun vars => word vars = pattern) command
        (caseOf word arms otherwise)))

instance
    (body : Command Vars Line Event)
    [bodyShrinks : Shrinks body] :
    Shrinks (whileTrue body) where
  shrinks := by
    intro world
    unfold whileTrue
    generalize world.input.length + 1 = fuel
    induction fuel generalizing world with
    | zero =>
        exact Nat.le_refl _
    | succ fuel inductionHypothesis =>
        have bound := bodyShrinks.shrinks world
        rw [iterate]
        rcases shape : body world with ⟨flow, reached⟩
        rw [shape] at bound
        cases flow with
        | next | cont =>
            exact Nat.le_trans (inductionHypothesis reached) bound
        | brk | discard | exit | stuck =>
            exact bound

/-! ## The loop rule -/

private theorem finish_iterate
    {body : Command Vars Line Event}
    {after : Continuation Vars Line Event R}
    {head : World Vars Line Event → R}
    [reads : Consumes body]
    (unfolds :
      ∀ world, finish body (after.inLoop head) world = head world)
    {fuel : Nat}
    {world : World Vars Line Event}
    (enough : world.input.length < fuel) :
    finish (iterate body fuel) after world = head world := by
  induction fuel generalizing world with
  | zero =>
      omega
  | succ fuel inductionHypothesis =>
      have read := reads.consumes world
      rw [← unfolds world]
      unfold finish
      rw [iterate]
      rcases shape : body world with ⟨flow, reached⟩
      rw [shape] at read
      cases flow with
      | next =>
          exact inductionHypothesis
            (Nat.lt_of_lt_of_le (read (.inl rfl)) (by omega))
      | cont =>
          exact inductionHypothesis
            (Nat.lt_of_lt_of_le (read (.inr rfl)) (by omega))
      | brk | discard | exit | stuck =>
          rfl

/--
A function of the loop head that satisfies the loop's unfolding is what the
loop computes, provided that every repeated iteration reads a line.
-/
theorem finish_whileTrue
    {body : Command Vars Line Event}
    [Consumes body]
    {after : Continuation Vars Line Event R}
    (head : World Vars Line Event → R)
    (unfolds :
      ∀ world, finish body (after.inLoop head) world = head world)
    (world : World Vars Line Event) :
    finish (whileTrue body) after world = head world :=
  finish_iterate unfolds (Nat.lt_succ_self _)

end ShellFlow
