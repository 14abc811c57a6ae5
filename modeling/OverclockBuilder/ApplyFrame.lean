import OverclockBuilder.ApplyStage

namespace OverclockBuilder

open RadixText WordText BytePacking CNumber BashText LabelTree

/-!
# The frame of the apply stage

The two apply blocks write a fixed list of properties with fixed values, so the
second block finds everything in place, and the finished tree differs from the
stock tree in the listed properties of two nodes only.
-/

/-! ## What the stock reader guarantees -/

/-- Everything a successful reading of the stock values has seen. -/
structure StockRead
    (tree : DeviceTree)
    (stock : Stock)
    (littleHzHex bigHzHex : Text) : Prop where
  tables : tablesPresent tree = true
  littleHz : hzHex littleTable tree = some littleHzHex
  bigHz : hzHex bigTable tree = some bigHzHex
  littleVoltage :
    microvolt littleTable tree = some stock.littleVoltageStock
  bigVoltage : microvolt bigTable tree = some stock.bigVoltageStock
  hzNonempty : littleHzHex ≠ [] ∧ bigHzHex ≠ []
  voltageNonempty :
    stock.littleVoltageStock ≠ [] ∧ stock.bigVoltageStock ≠ []
  littleValue : strlongHex littleHzHex = some stock.littleHz
  bigValue : strlongHex bigHzHex = some stock.bigHz

theorem readStock_eq_some
    {tree : DeviceTree}
    {stock : Stock}
    (read : readStock tree = some stock) :
    ∃ littleHzHex bigHzHex,
      StockRead tree stock littleHzHex bigHzHex := by
  simp only [readStock, bind, guard, pure, Option.bind_eq_some_iff,
    failure] at read
  obtain ⟨_, tables, littleHzHex, littleHz, bigHzHex, bigHz,
    littleVoltage, atLittle, bigVoltage, atBig, _, hzNonempty, _,
    voltageNonempty, little, littleValue, big, bigValue, same⟩ := read
  cases same
  refine ⟨littleHzHex, bigHzHex, ?_, littleHz, bigHz, atLittle, atBig,
    ?_, ?_, littleValue, bigValue⟩
  · by_contra absent
    simp [absent] at tables
  · by_contra empty
    rw [if_neg empty] at hzNonempty
    cases hzNonempty
  · by_contra empty
    rw [if_neg empty] at voltageNonempty
    cases voltageNonempty

/-- The clusters, with their tables. -/
inductive Cluster where
  | little
  | big
  deriving Repr, DecidableEq

namespace Cluster

/-- The operating point table of a cluster. -/
def table : Cluster → Text
  | .little => littleTable
  | .big => bigTable

/-- The path of `opp15` in the cluster's table. -/
def path (cluster : Cluster) : Text :=
  nodePath cluster.table

end Cluster

/-- An accepted tree has both properties in both nodes. -/
theorem StockRead.present
    {tree : DeviceTree}
    {stock : Stock}
    {littleHzHex bigHzHex : Text}
    (read : StockRead tree stock littleHzHex bigHzHex)
    (cluster : Cluster) :
    (propertyAt cluster.path oppHz tree).isSome ∧
      (propertyAt cluster.path oppMicrovolt tree).isSome := by
  have hz (table hex : Text) (shown : hzHex table tree = some hex) :
      (propertyAt (nodePath table) oppHz tree).isSome := by
    simp only [hzHex, fdtget, Option.map_eq_some_iff] at shown
    obtain ⟨line, ⟨value, here, -⟩, -⟩ := shown
    simp [here]
  have voltage (table text : Text)
      (shown : microvolt table tree = some text) :
      (propertyAt (nodePath table) oppMicrovolt tree).isSome := by
    simp only [microvolt, fdtget, Option.map_eq_some_iff] at shown
    obtain ⟨value, here, -⟩ := shown
    simp [here]
  cases cluster with
  | little =>
      exact ⟨hz _ _ read.littleHz, voltage _ _ read.littleVoltage⟩
  | big =>
      exact ⟨hz _ _ read.bigHz, voltage _ _ read.bigVoltage⟩

/-! ## The two nodes -/

/-- Two components of one length that match a node are equal. -/
theorem nodenameEq_unique
    {first second : Text}
    {node : FdtNode}
    (sameLength : first.length = second.length)
    (firstMatches : nodenameEq first node = true)
    (secondMatches : nodenameEq second node = true) :
    first = second := by
  simp only [nodenameEq, Bool.and_eq_true, List.isPrefixOf_iff_prefix]
    at firstMatches secondMatches
  exact (List.prefix_of_prefix_length_le firstMatches.1 secondMatches.1
    sameLength.le).eq_of_length sameLength

/-- The first component of the cluster's paths. -/
def Cluster.tableName : Cluster → Text
  | .little => "opp_table0".toList
  | .big => "opp_table1".toList

theorem length_tableName (first second : Cluster) :
    first.tableName.length = second.tableName.length := by
  cases first <;> cases second <;> decide

theorem tableName_injective
    {first second : Cluster}
    (same : first.tableName = second.tableName) :
    first = second := by
  revert same
  cases first <;> cases second <;> decide

/-- A path below a table starts at the table. -/
theorem pathOffset_below_table
    (cluster : Cluster)
    (rest : Text)
    (tree : DeviceTree) :
    pathOffset (cluster.table ++ '/' :: rest) tree =
      OrderedTree.find nodenameEq
        (cluster.tableName :: words (· == '/') rest) tree := by
  have absolute : (cluster.table ++ '/' :: rest).head? = some '/' := by
    cases cluster <;> rfl
  have name : words (· == '/') cluster.table = [cluster.tableName] := by
    cases cluster <;> decide
  rw [pathOffset, if_pos absolute, words_append_separator (by decide), name]
  rfl

/-- Paths below different tables never lead to one node. -/
theorem address_ne_of_tables
    {tree : DeviceTree}
    {first second : Cluster}
    (different : first ≠ second)
    {firstRest secondRest : Text}
    {firstAddress secondAddress : List Nat}
    (firstFound :
      pathOffset (first.table ++ '/' :: firstRest) tree =
        some firstAddress)
    (secondFound :
      pathOffset (second.table ++ '/' :: secondRest) tree =
        some secondAddress) :
    firstAddress ≠ secondAddress := by
  rw [pathOffset_below_table] at firstFound secondFound
  refine OrderedTree.find_ne ?_ firstFound secondFound
  intro node firstMatches
  cases secondMatches : nodenameEq second.tableName node with
  | false =>
      rfl
  | true =>
      have same :=
        nodenameEq_unique (length_tableName first second) firstMatches
          secondMatches
      exact (different (tableName_injective same)).elim

/-- The two `opp15` paths never lead to one node. -/
theorem cluster_address_ne
    {tree : DeviceTree}
    {littleAddress bigAddress : List Nat}
    (little :
      pathOffset (Cluster.path .little) tree = some littleAddress)
    (big : pathOffset (Cluster.path .big) tree = some bigAddress) :
    littleAddress ≠ bigAddress :=
  address_ne_of_tables (show Cluster.little ≠ .big by decide) little big

/-- Paths of different clusters do not name one node. -/
theorem cluster_eq_of_sameNode
    {tree : DeviceTree}
    {first second : Cluster}
    (same : SameNode tree first.path second.path) :
    first = second := by
  obtain ⟨address, firstFound, secondFound⟩ := same
  cases first <;> cases second
  · rfl
  · exact (cluster_address_ne firstFound secondFound rfl).elim
  · exact (cluster_address_ne secondFound firstFound rfl).elim
  · rfl

/-! ## The calls of a block -/

section Calls

variable (stock : Stock) (vars : Vars)

/-- The frequency a cluster is given. -/
def Cluster.newHz : Cluster → Intmax
  | .little => littleNewHz stock vars
  | .big => bigNewHz stock vars

/-- The voltage text a cluster is given. -/
def Cluster.voltage : Cluster → Text
  | .little => vars.littleVoltage
  | .big => vars.bigVoltage

/-- The calls of a block, by cluster and property. -/
theorem mem_applyCalls {call : FdtputCall} :
    call ∈ applyCalls stock vars ↔
      ∃ cluster : Cluster,
        call = putHz cluster.table (cluster.newHz stock vars) ∨
          voltageChanged stock vars = true ∧
            call = putMicrovolt cluster.table (cluster.voltage vars) := by
  have clusters (holds : Cluster → Prop) :
      (∃ cluster, holds cluster) ↔ holds .little ∨ holds .big := by
    refine ⟨?_, ?_⟩
    · rintro ⟨_ | _, here⟩
      · exact .inl here
      · exact .inr here
    · rintro (here | here)
      · exact ⟨_, here⟩
      · exact ⟨_, here⟩
  rw [clusters]
  unfold applyCalls voltageCalls
  cases voltageChanged stock vars <;>
    simp [Cluster.table, Cluster.newHz, Cluster.voltage, or_left_comm,
      or_assoc]

/-- The calls of a block agree on every tree. -/
theorem applyCalls_agreeing (tree : DeviceTree) :
    Agreeing tree (applyCalls stock vars) := by
  intro first firstMember second secondMember sameNode sameProperty
  rw [mem_applyCalls] at firstMember secondMember
  obtain ⟨firstCluster, rfl | ⟨-, rfl⟩⟩ := firstMember <;>
    obtain ⟨secondCluster, rfl | ⟨-, rfl⟩⟩ := secondMember
  · cases cluster_eq_of_sameNode sameNode
    rfl
  · exact (oppHz_ne_oppMicrovolt sameProperty).elim
  · exact (oppHz_ne_oppMicrovolt sameProperty.symm).elim
  · cases cluster_eq_of_sameNode sameNode
    rfl

end Calls

/-! ## The second block -/

/-- Listing a table needs nothing but its path. -/
theorem isSome_fdtgetList (path : Text) (tree : DeviceTree) :
    (fdtgetList path tree).isSome = (pathOffset path tree).isSome := by
  unfold fdtgetList
  cases found : pathOffset path tree with
  | none =>
      rfl
  | some address =>
      obtain ⟨node, atAddress⟩ := labelAt_of_pathOffset found
      rw [OrderedTree.labelAt, Option.map_eq_some_iff] at atAddress
      obtain ⟨subtree, reached, -⟩ := atAddress
      simp [reached]

theorem tablesPresent_runCalls
    {calls : List FdtputCall}
    {tree after : DeviceTree}
    (written : runCalls calls tree = some after) :
    tablesPresent after = tablesPresent tree := by
  simp only [tablesPresent, isSome_fdtgetList,
    pathOffset_runCalls written]

theorem applyPass_eq_some
    {stock : Stock}
    {vars : Vars}
    {tree after : DeviceTree}
    (applied : applyPass stock vars tree = some after) :
    tablesPresent tree = true ∧
      runCalls (applyCalls stock vars) tree = some after := by
  unfold applyPass at applied
  split at applied
  · exact ⟨by assumption, applied⟩
  · cases applied

/-- The second block changes nothing. -/
theorem applyPass_idempotent
    {stock : Stock}
    {vars : Vars}
    {tree after : DeviceTree}
    (applied : applyPass stock vars tree = some after) :
    applyPass stock vars after = some after := by
  obtain ⟨tables, written⟩ := applyPass_eq_some applied
  rw [applyPass, if_pos (by rw [tablesPresent_runCalls written, tables]),
    runCalls_idempotent written (applyCalls_agreeing stock vars tree)]

/-- Both blocks together do what one of them does. -/
theorem applyStage_eq_applyPass
    (stock : Stock)
    (vars : Vars)
    (tree : DeviceTree) :
    applyStage stock vars tree = applyPass stock vars tree := by
  unfold applyStage
  cases applied : applyPass stock vars tree with
  | none =>
      rfl
  | some after =>
      exact applyPass_idempotent applied

/-- After the stage every call's value is in place. -/
theorem propertyAt_applyStage
    {stock : Stock}
    {vars : Vars}
    {tree final : DeviceTree}
    (applied : applyStage stock vars tree = some final)
    {call : FdtputCall}
    (member : call ∈ applyCalls stock vars) :
    propertyAt call.path call.property final =
      encodeValue call.format call.arguments := by
  rw [applyStage_eq_applyPass] at applied
  exact propertyAt_runCalls (applyPass_eq_some applied).2
    (applyCalls_agreeing stock vars tree) member

/-! ## The frame -/

/-- Trees that differ at most in some properties of some nodes. -/
structure SameExcept
    (addresses : List (List Nat))
    (allowed : List Text)
    (before after : DeviceTree) : Prop where
  elsewhere :
    ∀ address, address ∉ addresses →
      OrderedTree.labelAt address after =
        OrderedTree.labelAt address before
  inside :
    ∀ address ∈ addresses, ∀ node,
      OrderedTree.labelAt address before = some node →
        ∃ changed,
          OrderedTree.labelAt address after = some changed ∧
            ChangesOnly allowed node changed

/-- A property that exists survives every run. -/
theorem isSome_propertyAt_run
    {call : FdtputCall}
    {tree after : DeviceTree}
    (written : call.run tree = some after)
    {path property : Text}
    (present : (propertyAt path property tree).isSome) :
    (propertyAt path property after).isSome := by
  by_cases touched :
      pathOffset path tree = pathOffset call.path tree ∧
        property = call.property
  · obtain ⟨samePath, rfl⟩ := touched
    have here := call.propertyAt_run_self written
    obtain ⟨value, address, encoded, -, -⟩ := call.run_eq_some written
    rw [propertyAt, call.pathOffset_run written] at here ⊢
    rw [samePath, here, encoded]
    rfl
  · rw [call.propertyAt_run_of_ne written (by
      rw [Ne, Ne, ← not_and_or]
      exact touched)]
    exact present

/-- A run of calls on existing properties stays inside its frame. -/
theorem runCalls_sameExcept
    {calls : List FdtputCall}
    {tree after : DeviceTree}
    (written : runCalls calls tree = some after)
    {addresses : List (List Nat)}
    {allowed : List Text}
    (framed :
      ∀ call ∈ calls,
        call.property ∈ allowed ∧
          (propertyAt call.path call.property tree).isSome ∧
            ∀ address, pathOffset call.path tree = some address →
              address ∈ addresses) :
    SameExcept addresses allowed tree after := by
  induction calls generalizing tree with
  | nil =>
      cases written
      exact ⟨fun _ _ => rfl, fun _ _ node here =>
        ⟨node, here, ChangesOnly.refl allowed node⟩⟩
  | cons call rest inductionHypothesis =>
      rw [runCalls, Option.bind_eq_some_iff] at written
      obtain ⟨middle, first, later⟩ := written
      obtain ⟨isAllowed, present, inside⟩ :=
        framed call List.mem_cons_self
      have restFrame : SameExcept addresses allowed middle after := by
        apply inductionHypothesis later
        intro other member
        obtain ⟨otherAllowed, otherPresent, otherInside⟩ :=
          framed other (List.mem_cons_of_mem call member)
        refine ⟨otherAllowed, isSome_propertyAt_run first otherPresent, ?_⟩
        intro address found
        rw [call.pathOffset_run first] at found
        exact otherInside address found
      refine ⟨?_, ?_⟩
      · intro address outside
        rw [restFrame.elsewhere address outside,
          call.labelAt_run_of_ne first fun found =>
            outside (inside address found)]
      · intro address member node here
        obtain ⟨between, middleHere, early⟩ :=
          call.labelAt_run first present isAllowed here
        obtain ⟨changed, afterHere, late⟩ :=
          restFrame.inside address member between middleHere
        exact ⟨changed, afterHere, early.trans late⟩

/-- The properties a configuration is allowed to change. -/
def changedProperties (stock : Stock) (vars : Vars) : List Text :=
  if voltageChanged stock vars then [oppHz, oppMicrovolt] else [oppHz]

/--
The finished tree is the stock tree except for `opp-hz`, and with a changed
voltage `opp-microvolt`, of the two `opp15` nodes; the second block leaves the
tree of the first one unchanged.
-/
theorem applyStage_sameExcept
    {tree final : DeviceTree}
    {stock : Stock}
    {vars : Vars}
    (read : readStock tree = some stock)
    (applied : applyStage stock vars tree = some final) :
    ∃ littleAddress bigAddress,
      pathOffset (nodePath littleTable) tree = some littleAddress ∧
        pathOffset (nodePath bigTable) tree = some bigAddress ∧
          SameExcept [littleAddress, bigAddress]
            (changedProperties stock vars) tree final ∧
            applyPass stock vars tree = some final ∧
              applyPass stock vars final = some final := by
  obtain ⟨littleHzHex, bigHzHex, accepted⟩ := readStock_eq_some read
  rw [applyStage_eq_applyPass] at applied
  obtain ⟨-, written⟩ := applyPass_eq_some applied
  have address (cluster : Cluster) :
      ∃ address, pathOffset cluster.path tree = some address :=
    (runCalls_succeeds written
      ((mem_applyCalls stock vars).mpr ⟨cluster, .inl rfl⟩)).2
  obtain ⟨littleAddress, little⟩ := address .little
  obtain ⟨bigAddress, big⟩ := address .big
  refine ⟨littleAddress, bigAddress, little, big, ?_, applied,
    applyPass_idempotent applied⟩
  apply runCalls_sameExcept written
  intro call member
  rw [mem_applyCalls] at member
  have inside (cluster : Cluster) (found : List Nat)
      (here : pathOffset cluster.path tree = some found) :
      found ∈ [littleAddress, bigAddress] := by
    cases cluster with
    | little =>
        simp [Option.some.inj (here.symm.trans little)]
    | big =>
        simp [Option.some.inj (here.symm.trans big)]
  obtain ⟨cluster, rfl | ⟨changed, rfl⟩⟩ := member
  · refine ⟨?_, (accepted.present cluster).1, inside cluster⟩
    unfold changedProperties
    split <;> simp [putHz]
  · refine ⟨?_, (accepted.present cluster).2, inside cluster⟩
    simp [changedProperties, changed, putMicrovolt]

/-- A stock tree in which the little table has one point besides `opp15`. -/
def stockTree
    (littleHz bigHz : Nat)
    (littleMicrovolt bigMicrovolt : List Nat) :
    DeviceTree :=
  .node ⟨[], []⟩ [
    .node ⟨"opp_table0".toList, [⟨"phandle".toList, [0, 0, 0, 1]⟩]⟩ [
      .node
        ⟨"opp0".toList,
          [⟨oppHz, bigEndian 8 500000000⟩,
            ⟨oppMicrovolt, bigEndian 4 650000⟩]⟩ [],
      .node
        ⟨"opp15".toList,
          [⟨oppHz, bigEndian 8 littleHz⟩,
            ⟨oppMicrovolt, littleMicrovolt.flatMap (bigEndian 4)⟩]⟩ []],
    .node ⟨"opp_table1".toList, []⟩ [
      .node
        ⟨"opp15".toList,
          [⟨oppHz, bigEndian 8 bigHz⟩,
            ⟨oppMicrovolt, bigMicrovolt.flatMap (bigEndian 4)⟩]⟩ []]]

/-- The tree behind the README's screens. -/
def readmeTree : DeviceTree :=
  stockTree 1800000000 2000000000 [1006250] [1087500]

/-- Fifty MHz more and two typed voltages. -/
def exampleVars : Vars :=
  { Vars.initial readmeStock with
    mhz := "50".toList
    addHz := some 50000000
    littleTargetMhz := some 1850
    bigTargetMhz := some 2050
    littleVoltage := "1010000".toList
    bigVoltage := "1090000".toList }

theorem applyStage_sameExcept_example :
    ∃ final littleAddress bigAddress,
      pathOffset (nodePath littleTable) readmeTree =
          some littleAddress ∧
        pathOffset (nodePath bigTable) readmeTree = some bigAddress ∧
          SameExcept [littleAddress, bigAddress]
            (changedProperties readmeStock exampleVars) readmeTree
            final ∧
            applyPass readmeStock exampleVars readmeTree = some final ∧
              applyPass readmeStock exampleVars final = some final := by
  have completes :
      (applyStage readmeStock exampleVars readmeTree).isSome := by
    decide +kernel
  obtain ⟨final, applied⟩ := Option.isSome_iff_exists.mp completes
  exact ⟨final, applyStage_sameExcept (by decide +kernel) applied⟩

end OverclockBuilder
