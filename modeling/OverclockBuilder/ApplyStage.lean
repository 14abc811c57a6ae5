import OverclockBuilder.FdtTools
import OverclockBuilder.MenuScript

namespace OverclockBuilder

open RadixText WordText BytePacking CNumber BashText LabelTree

/-!
# Reading the stock values and applying the configuration

Stage 4 of the script around the menus: the stock values are read with `fdtget`
before the first menu, and two identical blocks of `fdtput` calls write the
configuration behind the last one.  Every call runs under `set -e`, so a stage
that yields `none` ends the script.
-/

/-- `/opp_table0`, the table of the little cluster -/
def littleTable : Text :=
  "/opp_table0".toList

/-- `/opp_table1`, the table of the big cluster -/
def bigTable : Text :=
  "/opp_table1".toList

/-- `"/$table/$NODE"` with `NODE="opp15"` -/
def nodePath (table : Text) : Text :=
  table ++ "/opp15".toList

def oppHz : Text :=
  "opp-hz".toList

def oppMicrovolt : Text :=
  "opp-microvolt".toList

theorem oppHz_ne_oppMicrovolt : oppHz ≠ oppMicrovolt := by
  decide

/-! ## The stock values -/

/-- The loop over both tables: each must be listable. -/
def tablesPresent (tree : DeviceTree) : Bool :=
  (fdtgetList littleTable tree).isSome &&
    (fdtgetList bigTable tree).isSome

/-- `fdtget -t x blob PATH opp-hz | awk '{print $2}'` -/
def hzHex (table : Text) (tree : DeviceTree) : Option Text :=
  (fdtget .x (nodePath table) oppHz tree).map (awkField 2)

/-- `fdtget -t u blob PATH opp-microvolt` -/
def microvolt (table : Text) (tree : DeviceTree) : Option Text :=
  fdtget .u (nodePath table) oppMicrovolt tree

/-- The script from the table check to `LITTLE_HZ` and `BIG_HZ`. -/
def readStock (tree : DeviceTree) : Option Stock := do
  guard (tablesPresent tree)
  let littleHzHex ← hzHex littleTable tree
  let bigHzHex ← hzHex bigTable tree
  let littleVoltageStock ← microvolt littleTable tree
  let bigVoltageStock ← microvolt bigTable tree
  guard (littleHzHex ≠ [] ∧ bigHzHex ≠ [])
  guard (littleVoltageStock ≠ [] ∧ bigVoltageStock ≠ [])
  let littleHz ← strlongHex littleHzHex
  let bigHz ← strlongHex bigHzHex
  return { littleHz, bigHz, littleVoltageStock, bigVoltageStock }

/-! ## The apply blocks -/

/-- `LITTLE_NEW_HZ=$((LITTLE_HZ + ADD_HZ))`; an empty `ADD_HZ` is zero. -/
def littleNewHz (stock : Stock) (vars : Vars) : Intmax :=
  stock.littleHz + vars.addHz.getD 0

/-- `BIG_NEW_HZ=$((BIG_HZ + ADD_HZ))` -/
def bigNewHz (stock : Stock) (vars : Vars) : Intmax :=
  stock.bigHz + vars.addHz.getD 0

/-- `printf '%x'` of a bash integer -/
def printfHex (value : Intmax) : Text :=
  printHex value.toUInt64.toNat

/-- `fdtput -t x blob PATH opp-hz 0 HEX` -/
def putHz (table : Text) (newHz : Intmax) : FdtputCall where
  format := .x
  path := nodePath table
  property := oppHz
  arguments := [['0'], printfHex newHz]

/-- `fdtput -t u blob PATH opp-microvolt VOLTAGE` -/
def putMicrovolt (table voltage : Text) : FdtputCall where
  format := .u
  path := nodePath table
  property := oppMicrovolt
  arguments := [voltage]

/-- The guard in front of the voltage calls. -/
def voltageChanged (stock : Stock) (vars : Vars) : Bool :=
  vars.littleVoltage != stock.littleVoltageStock ||
    vars.bigVoltage != stock.bigVoltageStock

/-- The `opp-microvolt` calls of one block. -/
def voltageCalls (stock : Stock) (vars : Vars) : List FdtputCall :=
  if voltageChanged stock vars then
    [putMicrovolt littleTable vars.littleVoltage,
      putMicrovolt bigTable vars.bigVoltage]
  else
    []

/-- The `fdtput` calls of one block, in order. -/
def applyCalls (stock : Stock) (vars : Vars) : List FdtputCall :=
  [putHz littleTable (littleNewHz stock vars),
      putHz bigTable (bigNewHz stock vars)] ++
    voltageCalls stock vars

/-- Run calls in order; the first failure ends the script. -/
def runCalls : List FdtputCall → DeviceTree → Option DeviceTree
  | [], tree =>
      some tree
  | call :: rest, tree =>
      (call.run tree).bind (runCalls rest)

/-- One `TERAPKAN PERUBAHAN KE DTB` block. -/
def applyPass
    (stock : Stock)
    (vars : Vars)
    (tree : DeviceTree) :
    Option DeviceTree :=
  if tablesPresent tree then
    runCalls (applyCalls stock vars) tree
  else
    none

/-- The script has the block twice. -/
def applyStage
    (stock : Stock)
    (vars : Vars)
    (tree : DeviceTree) :
    Option DeviceTree :=
  (applyPass stock vars tree).bind (applyPass stock vars)

/-! ## Runs of calls -/

theorem pathOffset_runCalls
    {calls : List FdtputCall}
    {tree after : DeviceTree}
    (written : runCalls calls tree = some after)
    (path : Text) :
    pathOffset path after = pathOffset path tree := by
  induction calls generalizing tree with
  | nil =>
      cases written
      rfl
  | cons call rest inductionHypothesis =>
      rw [runCalls, Option.bind_eq_some_iff] at written
      obtain ⟨middle, first, later⟩ := written
      rw [inductionHypothesis later, call.pathOffset_run first]

/-- Two paths that lead to one node. -/
def SameNode (tree : DeviceTree) (first second : Text) : Prop :=
  ∃ address,
    pathOffset first tree = some address ∧
      pathOffset second tree = some address

/-- Calls never write different values to one property of one node. -/
def Agreeing (tree : DeviceTree) (calls : List FdtputCall) : Prop :=
  ∀ first ∈ calls, ∀ second ∈ calls,
    SameNode tree first.path second.path →
      first.property = second.property →
        encodeValue first.format first.arguments =
          encodeValue second.format second.arguments

/-- A property no call names is untouched. -/
theorem propertyAt_runCalls_of_forall
    {calls : List FdtputCall}
    {tree after : DeviceTree}
    (written : runCalls calls tree = some after)
    {path property : Text}
    (untouched :
      ∀ call ∈ calls,
        pathOffset path tree ≠ pathOffset call.path tree ∨
          property ≠ call.property) :
    propertyAt path property after = propertyAt path property tree := by
  induction calls generalizing tree with
  | nil =>
      cases written
      rfl
  | cons call rest inductionHypothesis =>
      rw [runCalls, Option.bind_eq_some_iff] at written
      obtain ⟨middle, first, later⟩ := written
      have moved := call.pathOffset_run first
      rw [inductionHypothesis later fun other member => by
          rw [moved, moved]
          exact untouched other (List.mem_cons_of_mem call member),
        call.propertyAt_run_of_ne first
          (untouched call List.mem_cons_self)]

/-- A call of a successful run has found its path and encoded its value. -/
theorem runCalls_succeeds
    {calls : List FdtputCall}
    {tree after : DeviceTree}
    (written : runCalls calls tree = some after)
    {call : FdtputCall}
    (member : call ∈ calls) :
    (∃ value, encodeValue call.format call.arguments = some value) ∧
      ∃ address, pathOffset call.path tree = some address := by
  induction calls generalizing tree with
  | nil =>
      cases member
  | cons head rest inductionHypothesis =>
      rw [runCalls, Option.bind_eq_some_iff] at written
      obtain ⟨middle, first, later⟩ := written
      rcases List.mem_cons.mp member with rfl | inRest
      · obtain ⟨value, address, encoded, found, -⟩ :=
          call.run_eq_some first
        exact ⟨⟨value, encoded⟩, address, found⟩
      · obtain ⟨encodes, address, found⟩ :=
          inductionHypothesis later inRest
        rw [head.pathOffset_run first] at found
        exact ⟨encodes, address, found⟩

/-- A run of encodable calls on existing paths succeeds. -/
theorem exists_runCalls
    {calls : List FdtputCall}
    {tree : DeviceTree}
    (ready :
      ∀ call ∈ calls,
        (∃ value, encodeValue call.format call.arguments = some value) ∧
          ∃ address, pathOffset call.path tree = some address) :
    ∃ after, runCalls calls tree = some after := by
  induction calls generalizing tree with
  | nil =>
      exact ⟨tree, rfl⟩
  | cons call rest inductionHypothesis =>
      obtain ⟨⟨value, encoded⟩, address, found⟩ :=
        ready call List.mem_cons_self
      have first :
          call.run tree =
            some
              (OrderedTree.modifyAt (setprop call.property value) address
                tree) := by
        rw [FdtputCall.run, encoded, found]
        rfl
      rw [runCalls, first, Option.bind_some]
      apply inductionHypothesis
      intro other member
      rw [call.pathOffset_run first]
      exact ready other (List.mem_cons_of_mem call member)

/-- After a run every call's value is in place. -/
theorem propertyAt_runCalls
    {calls : List FdtputCall}
    {tree after : DeviceTree}
    (written : runCalls calls tree = some after)
    (agreeing : Agreeing tree calls)
    {call : FdtputCall}
    (member : call ∈ calls) :
    propertyAt call.path call.property after =
      encodeValue call.format call.arguments := by
  induction calls generalizing tree call with
  | nil =>
      cases member
  | cons head rest inductionHypothesis =>
      have succeeds := runCalls_succeeds written member
      rw [runCalls, Option.bind_eq_some_iff] at written
      obtain ⟨middle, first, later⟩ := written
      have moved := head.pathOffset_run first
      have restAgreeing : Agreeing middle rest := by
        rintro one oneMember two twoMember ⟨address, oneFound, twoFound⟩
        rw [moved] at oneFound twoFound
        exact agreeing one (List.mem_cons_of_mem head oneMember)
          two (List.mem_cons_of_mem head twoMember)
          ⟨address, oneFound, twoFound⟩
      rcases List.mem_cons.mp member with rfl | inRest
      · -- a later call may write the same property again
        by_cases again :
            ∃ other ∈ rest,
              pathOffset call.path tree = pathOffset other.path tree ∧
                call.property = other.property
        · obtain ⟨other, otherMember, samePath, sameProperty⟩ := again
          obtain ⟨-, address, found⟩ := succeeds
          have sameAfter (path : Text) :
              pathOffset path after = pathOffset path tree := by
            rw [pathOffset_runCalls later, moved]
          have shared :
              propertyAt call.path call.property after =
                propertyAt other.path other.property after := by
            rw [propertyAt, propertyAt, sameAfter, sameAfter, samePath,
              sameProperty]
          rw [shared, inductionHypothesis later restAgreeing otherMember]
          exact agreeing other (List.mem_cons_of_mem call otherMember)
            call List.mem_cons_self
            ⟨address, samePath ▸ found, found⟩ sameProperty.symm
        · rw [propertyAt_runCalls_of_forall later fun other otherMember => by
              rw [moved, moved]
              by_contra touched
              rw [not_or, not_not, not_not] at touched
              exact again ⟨other, otherMember, touched⟩,
            call.propertyAt_run_self first]
      · exact inductionHypothesis later restAgreeing inRest

/-- Repeating a run changes nothing. -/
theorem runCalls_idempotent
    {calls : List FdtputCall}
    {tree after : DeviceTree}
    (written : runCalls calls tree = some after)
    (agreeing : Agreeing tree calls) :
    runCalls calls after = some after := by
  have repeated (part : List FdtputCall) (inside : part ⊆ calls) :
      runCalls part after = some after := by
    induction part with
    | nil =>
        rfl
    | cons call rest inductionHypothesis =>
        have member := inside List.mem_cons_self
        obtain ⟨⟨value, encoded⟩, -⟩ := runCalls_succeeds written member
        rw [runCalls,
          call.run_eq_self (propertyAt_runCalls written agreeing member)
            encoded,
          Option.bind_some,
          inductionHypothesis fun other otherMember =>
            inside (List.mem_cons_of_mem call otherMember)]
  exact repeated calls (List.Subset.refl calls)

end OverclockBuilder
