import OverclockBuilder.ApplyVoltage
import OverclockBuilder.ApplyFrequency

namespace OverclockBuilder

open RadixText WordText BytePacking CNumber BashText LabelTree

/-!
# The final verification

The last stage reads one value per table back from the new image: the second
cell of `opp-hz` of the node that `fdtget -l` lists last.  Nothing is compared,
so what is printed and what the tree holds agree with the configuration only
under conditions on the stock tree.
-/

/-! ## The loop over the tables -/

/-- `$(... | tail -n1)` on printed lines, whose texts may hold newlines -/
def tailLine (lines : List Text) : Text :=
  ((lines.flatMap fun line => line.splitOn '\n').getLast?).getD []

/-- `LAST` -/
def lastListed (table : Text) (tree : DeviceTree) : Option Text :=
  (fdtgetList table tree).map tailLine

/-- `"/$table/$LAST"` -/
def listedPath (table last : Text) : Text :=
  table ++ '/' :: last

/-- `HEX` -/
def lastHex (table : Text) (tree : DeviceTree) : Option Text :=
  (lastListed table tree).bind fun last =>
    (fdtget .x (listedPath table last) oppHz tree).map (awkField 2)

/-- The loop under `Frekuensi maksimum akhir`, as the lines it prints. -/
def finalLoop : List Text → DeviceTree → Option (List (Text × Intmax))
  | [], _ =>
      some []
  | table :: rest, tree =>
      (lastHex table tree).bind fun hex =>
        -- `$((16#))` is an error; bash gives up the loop and goes on behind it
        if hex = [] then
          some []
        else
          (strlongHex hex).bind fun hz =>
            (finalLoop rest tree).map ((table, hz / 1000000) :: ·)

/-- `MHZ_FINAL` of a table, unless the loop is given up there. -/
def lastMhz (table : Text) (tree : DeviceTree) : Option Intmax :=
  (lastHex table tree).bind fun hex =>
    if hex = [] then none else (strlongHex hex).map (· / 1000000)

/-- A printed line is the value of its table. -/
theorem lastMhz_of_mem
    {tables : List Text}
    {tree : DeviceTree}
    {report : List (Text × Intmax)}
    (printed : finalLoop tables tree = some report)
    {table : Text}
    {mhz : Intmax}
    (member : (table, mhz) ∈ report) :
    lastMhz table tree = some mhz := by
  induction tables generalizing report with
  | nil =>
      cases printed
      cases member
  | cons head rest inductionHypothesis =>
      rw [finalLoop, Option.bind_eq_some_iff] at printed
      obtain ⟨hex, listed, printed⟩ := printed
      split at printed
      · cases printed
        cases member
      · rename_i nonempty
        rw [Option.bind_eq_some_iff] at printed
        obtain ⟨hz, read, printed⟩ := printed
        rw [Option.map_eq_some_iff] at printed
        obtain ⟨others, printedRest, rfl⟩ := printed
        rcases List.mem_cons.mp member with here | inRest
        · obtain ⟨rfl, rfl⟩ := Prod.mk.inj here
          rw [lastMhz, listed, Option.bind_some, if_neg nonempty, read]
          rfl
        · exact inductionHypothesis printedRest inRest

/-- The lines of a loop that is not given up are complete. -/
theorem mem_of_lastMhz
    {tables : List Text}
    {tree : DeviceTree}
    {report : List (Text × Intmax)}
    (printed : finalLoop tables tree = some report)
    (readable : ∀ table ∈ tables, (lastMhz table tree).isSome)
    {table : Text}
    (member : table ∈ tables)
    {mhz : Intmax}
    (here : lastMhz table tree = some mhz) :
    (table, mhz) ∈ report := by
  induction tables generalizing report with
  | nil =>
      cases member
  | cons head rest inductionHypothesis =>
      rw [finalLoop, Option.bind_eq_some_iff] at printed
      obtain ⟨hex, listed, printed⟩ := printed
      have headReadable := readable head List.mem_cons_self
      rw [lastMhz, listed, Option.bind_some] at headReadable
      split at printed
      · rename_i empty
        rw [if_pos empty] at headReadable
        cases headReadable
      · rename_i nonempty
        rw [Option.bind_eq_some_iff] at printed
        obtain ⟨hz, read, printed⟩ := printed
        rw [Option.map_eq_some_iff] at printed
        obtain ⟨others, printedRest, rfl⟩ := printed
        rcases List.mem_cons.mp member with rfl | inRest
        · rw [lastMhz, listed, Option.bind_some, if_neg nonempty, read]
            at here
          rw [← Option.some.inj here]
          exact List.mem_cons_self
        · refine List.mem_cons_of_mem _ ?_
          exact inductionHypothesis printedRest
            (fun other otherMember =>
              readable other (List.mem_cons_of_mem head otherMember))
            inRest

/-- What `fdtget -t x` prints, bash can read. -/
theorem isSome_strlongHex
    {table hex : Text}
    {tree : DeviceTree}
    (shown : lastHex table tree = some hex)
    (nonempty : hex ≠ []) :
    (strlongHex hex).isSome = true := by
  simp only [lastHex, fdtget, Option.bind_eq_some_iff,
    Option.map_eq_some_iff] at shown
  obtain ⟨last, -, line, ⟨value, -, rfl⟩, rfl⟩ := shown
  rw [awkField, words_showData, List.getD_eq_getElem?_getD,
    List.getElem?_map] at nonempty ⊢
  cases cell : (cells value)[2 - 1]? with
  | none =>
      rw [cell] at nonempty
      exact (nonempty rfl).elim
  | some number =>
      rw [Option.map_some, Option.getD_some, Format.print,
        strlongHex_printHex]
      rfl

/-- The loop runs to its end where every last node has a frequency. -/
theorem isSome_finalLoop
    {tables : List Text}
    {tree : DeviceTree}
    (listed : ∀ table ∈ tables, (lastHex table tree).isSome = true) :
    (finalLoop tables tree).isSome = true := by
  induction tables with
  | nil =>
      rfl
  | cons table rest inductionHypothesis =>
      rw [List.forall_mem_cons] at listed
      obtain ⟨hex, shown⟩ := Option.isSome_iff_exists.mp listed.1
      rw [finalLoop, shown, Option.bind_some]
      split
      · rfl
      · rename_i nonempty
        obtain ⟨hz, read⟩ :=
          Option.isSome_iff_exists.mp (isSome_strlongHex shown nonempty)
        rw [read, Option.bind_some, Option.isSome_map]
        exact inductionHypothesis listed.2

/-! ## Names are never written -/

theorem fdtgetList_run
    {call : FdtputCall}
    {tree after : DeviceTree}
    (written : call.run tree = some after)
    (path : Text) :
    fdtgetList path after = fdtgetList path tree := by
  have moved := call.pathOffset_run written path
  obtain ⟨value, address, -, -, rfl⟩ := call.run_eq_some written
  have named (node : FdtNode) :
      listedName (setprop call.property value node) = listedName node :=
    rfl
  rw [fdtgetList, fdtgetList, moved]
  congr 1
  funext found
  exact OrderedTree.children_at?_modifyAt named found address tree

theorem fdtgetList_runCalls
    {calls : List FdtputCall}
    {tree after : DeviceTree}
    (written : runCalls calls tree = some after)
    (path : Text) :
    fdtgetList path after = fdtgetList path tree := by
  induction calls generalizing tree with
  | nil =>
      cases written
      rfl
  | cons call rest inductionHypothesis =>
      rw [runCalls, Option.bind_eq_some_iff] at written
      obtain ⟨middle, first, later⟩ := written
      rw [inductionHypothesis later, fdtgetList_run first]

/-! ## The values in the new tree -/

section Applied

variable {tree final : DeviceTree} {stock : Stock} {vars : Vars}

/-- `opp-hz` of `opp15` holds the low 32 bits of the new frequency. -/
theorem oppHz_applyStage
    (applied : applyStage stock vars tree = some final)
    (cluster : Cluster) :
    propertyAt cluster.path oppHz final =
      some (packWords
        [0, (cluster.newHz stock vars).toUInt64.toNat]) := by
  have zero : strtoul 16 ['0'] = some 0 := by
    decide
  have read :=
    strtoul_printHex (cluster.newHz stock vars).toUInt64.toNat_lt
  have inPlace := propertyAt_applyStage applied
    ((mem_applyCalls stock vars).mpr ⟨cluster, .inl rfl⟩)
  simpa [Cluster.path, putHz, encodeValue, encodeCell, Format.base, zero,
    printfHex, read, packWords] using inPlace

theorem hz64_applyStage_eq
    (applied : applyStage stock vars tree = some final)
    (cluster : Cluster) :
    hz64 cluster.table final =
      some ((cluster.newHz stock vars).toUInt64.toNat % 4294967296) := by
  have written := oppHz_applyStage applied cluster
  rw [Cluster.path] at written
  rw [hz64, written, Option.bind_some, if_pos (by simp)]
  simp only [packWords, List.flatMap_cons, List.flatMap_nil, List.append_nil,
    ofBigEndian_append, ofBigEndian_bigEndian, length_bigEndian]
  norm_num

/-- A bash integer is its 64 bits, read with a sign. -/
theorem toInt_intmax (value : Intmax) :
    value.toInt =
      if 2 * value.toUInt64.toNat < 18446744073709551616 then
        (value.toUInt64.toNat : Int)
      else
        (value.toUInt64.toNat : Int) - 18446744073709551616 := by
  have signed := BitVec.toInt_eq_toNat_cond value.toBitVec
  rw [Int64.toInt_toBitVec, Int64.toNat_toBitVec] at signed
  exact_mod_cast signed

/-- The new `opp-hz` is the new frequency exactly if it fits one cell. -/
theorem hz64_eq_newHz_iff
    (applied : applyStage stock vars tree = some final)
    (cluster : Cluster) :
    (∃ hz,
        hz64 cluster.table final = some hz ∧
          (hz : Int) = (cluster.newHz stock vars).toInt) ↔
      0 ≤ (cluster.newHz stock vars).toInt ∧
        (cluster.newHz stock vars).toInt < 4294967296 := by
  have bounded := (cluster.newHz stock vars).toUInt64.toNat_lt
  rw [hz64_applyStage_eq applied, toInt_intmax]
  simp only [Option.some.injEq, exists_eq_left']
  split <;> omega

/-! ## The value that is shown -/

theorem lastListed_applyStage
    (applied : applyStage stock vars tree = some final)
    (table : Text) :
    lastListed table final = lastListed table tree := by
  rw [applyStage_eq_applyPass] at applied
  rw [lastListed, lastListed,
    fdtgetList_runCalls (applyPass_eq_some applied).2]

/-- The text of a node that is `opp15` is its low cell. -/
theorem lastHex_of_opp15
    (applied : applyStage stock vars tree = some final)
    {cluster : Cluster}
    {last : Text}
    (listed : lastListed cluster.table tree = some last)
    (isOpp15 :
      pathOffset (listedPath cluster.table last) tree =
        pathOffset cluster.path tree) :
    lastHex cluster.table final =
      some
        (printHex
          ((cluster.newHz stock vars).toUInt64.toNat % 4294967296)) := by
  have written := oppHz_applyStage applied cluster
  have listedAfter := lastListed_applyStage applied cluster.table
  rw [listed] at listedAfter
  rw [applyStage_eq_applyPass] at applied
  have calls := (applyPass_eq_some applied).2
  have here :
      propertyAt (listedPath cluster.table last) oppHz final =
        some (packWords
          [0, (cluster.newHz stock vars).toUInt64.toNat]) := by
    rw [← written, propertyAt, propertyAt, pathOffset_runCalls calls,
      pathOffset_runCalls calls, isOpp15]
  rw [lastHex, listedAfter, Option.bind_some, fdtget, here,
    Option.map_some, Option.map_some, awkField, words_showData,
    cells_packWords]
  rfl

/-- The text of another node is the stock one. -/
theorem lastHex_of_other
    (applied : applyStage stock vars tree = some final)
    {cluster : Cluster}
    {last : Text}
    (listed : lastListed cluster.table tree = some last)
    (other :
      pathOffset (listedPath cluster.table last) tree ≠
        pathOffset cluster.path tree) :
    lastHex cluster.table final = lastHex cluster.table tree := by
  have listedAfter := lastListed_applyStage applied cluster.table
  rw [listed] at listedAfter
  rw [applyStage_eq_applyPass] at applied
  have calls := (applyPass_eq_some applied).2
  have untouched :
      propertyAt (listedPath cluster.table last) oppHz final =
        propertyAt (listedPath cluster.table last) oppHz tree := by
    apply propertyAt_runCalls_of_forall calls
    intro call member
    obtain ⟨-, address, found⟩ := runCalls_succeeds calls member
    obtain ⟨writer, rfl | ⟨-, rfl⟩⟩ := (mem_applyCalls stock vars).mp member
    · refine .inl ?_
      by_cases same : cluster = writer
      · subst same
        exact other
      · intro shared
        exact address_ne_of_tables same (shared.trans found) found rfl
    · exact .inr oppHz_ne_oppMicrovolt
  rw [lastHex, lastHex, listed, listedAfter, Option.bind_some,
    Option.bind_some, fdtget, fdtget, untouched]

/-- A last node with a frequency keeps one. -/
theorem isSome_lastHex_applyStage
    (applied : applyStage stock vars tree = some final)
    {cluster : Cluster}
    (shown : (lastHex cluster.table tree).isSome = true) :
    (lastHex cluster.table final).isSome = true := by
  obtain ⟨hex, isHex⟩ := Option.isSome_iff_exists.mp shown
  obtain ⟨last, listed, -⟩ := Option.bind_eq_some_iff.mp isHex
  by_cases isOpp15 :
      pathOffset (listedPath cluster.table last) tree =
        pathOffset cluster.path tree
  · rw [lastHex_of_opp15 applied listed isOpp15]
    rfl
  · rw [lastHex_of_other applied listed isOpp15]
    exact shown

/-- The value of a node that is `opp15` is its low cell. -/
theorem lastMhz_of_opp15
    (applied : applyStage stock vars tree = some final)
    {cluster : Cluster}
    {last : Text}
    (listed : lastListed cluster.table tree = some last)
    (isOpp15 :
      pathOffset (listedPath cluster.table last) tree =
        pathOffset cluster.path tree) :
    lastMhz cluster.table final =
      some
        (Int64.ofNat
            ((cluster.newHz stock vars).toUInt64.toNat % 4294967296) /
          1000000) := by
  have nonempty :
      printHex ((cluster.newHz stock vars).toUInt64.toNat % 4294967296) ≠
        [] :=
    Nat.toDigits_ne_nil
  rw [lastMhz, lastHex_of_opp15 applied listed isOpp15, Option.bind_some,
    if_neg nonempty, strlongHex_printHex]
  rfl

/-- The value of another node is the stock one. -/
theorem lastMhz_of_other
    (applied : applyStage stock vars tree = some final)
    {cluster : Cluster}
    {last : Text}
    (listed : lastListed cluster.table tree = some last)
    (other :
      pathOffset (listedPath cluster.table last) tree ≠
        pathOffset cluster.path tree) :
    lastMhz cluster.table final = lastMhz cluster.table tree := by
  rw [lastMhz, lastMhz, lastHex_of_other applied listed other]

end Applied

/-! ## The verified tree -/

/-- The node listed last is `opp15`, or it shows the new frequency already. -/
def ShowsNew
    (stock : Stock)
    (vars : Vars)
    (tree : DeviceTree)
    (cluster : Cluster) :
    Prop :=
  (∃ last,
      lastListed cluster.table tree = some last ∧
        pathOffset (listedPath cluster.table last) tree =
          pathOffset cluster.path tree) ∨
    ∃ mhz,
      lastMhz cluster.table tree = some mhz ∧
        mhz.toInt = (cluster.newHz stock vars).toInt / 1000000

/-- The new frequency of a cluster fits the cell it is written to. -/
def FitsCell (stock : Stock) (vars : Vars) (cluster : Cluster) : Prop :=
  0 ≤ (cluster.newHz stock vars).toInt ∧
    (cluster.newHz stock vars).toInt < 4294967296

/-- The numbers of a voltage text. -/
def configuredCells (text : Text) : List Nat :=
  (words isIfsBlank text).map (numeral 10)

/-- What a tree and the printed lines owe to a configuration. -/
structure Sound
    (stock : Stock)
    (vars : Vars)
    (tree : DeviceTree)
    (report : List (Text × Intmax)) : Prop where
  hz :
    ∀ cluster : Cluster, ∃ hz,
      hz64 cluster.table tree = some hz ∧
        (hz : Int) = (cluster.newHz stock vars).toInt
  microvolt :
    ∀ cluster : Cluster,
      (propertyAt cluster.path oppMicrovolt tree).map cells =
        some (configuredCells (cluster.voltage vars))
  shown :
    ∀ cluster : Cluster, ∃ mhz,
      (cluster.table, mhz) ∈ report ∧
        mhz.toInt = (cluster.newHz stock vars).toInt / 1000000

section Sound

variable {tree final : DeviceTree} {stock : Stock} {vars : Vars}

/-- The low cell of a frequency that fits shows its megahertz. -/
theorem newMhz_of_low
    {cluster : Cluster}
    (fits : FitsCell stock vars cluster) :
    (Int64.ofNat
          ((cluster.newHz stock vars).toUInt64.toNat % 4294967296) /
        1000000).toInt =
      (cluster.newHz stock vars).toInt / 1000000 := by
  have bounded := (cluster.newHz stock vars).toUInt64.toNat_lt
  have low :
      (((cluster.newHz stock vars).toUInt64.toNat % 4294967296 : Nat) : Int) =
        (cluster.newHz stock vars).toInt := by
    unfold FitsCell at fits
    rw [toInt_intmax] at fits ⊢
    split at fits <;> omega
  rw [Int64.toInt_div_of_ne_right _ _ (by decide),
    Int64.toInt_ofNat_of_lt (by omega), low,
    show (1000000 : Int64).toInt = 1000000 by decide,
    Int.tdiv_eq_ediv_of_nonneg fits.1]

/-- With a frequency that fits, the shown value is decided by the stock tree. -/
theorem lastMhz_eq_newMhz_iff
    (applied : applyStage stock vars tree = some final)
    {cluster : Cluster}
    (fits : FitsCell stock vars cluster) :
    (∃ mhz,
        lastMhz cluster.table final = some mhz ∧
          mhz.toInt = (cluster.newHz stock vars).toInt / 1000000) ↔
      ShowsNew stock vars tree cluster := by
  obtain ⟨last, listed⟩ : ∃ last,
      lastListed cluster.table tree = some last := by
    rw [applyStage_eq_applyPass] at applied
    have tables := (applyPass_eq_some applied).1
    simp only [tablesPresent, Bool.and_eq_true, Option.isSome_iff_exists]
      at tables
    obtain ⟨⟨little, littleListed⟩, big, bigListed⟩ := tables
    cases cluster with
    | little =>
        exact ⟨_, congrArg (Option.map tailLine) littleListed⟩
    | big =>
        exact ⟨_, congrArg (Option.map tailLine) bigListed⟩
  by_cases isOpp15 :
      pathOffset (listedPath cluster.table last) tree =
        pathOffset cluster.path tree
  · rw [lastMhz_of_opp15 applied listed isOpp15]
    refine iff_of_true ⟨_, rfl, ?_⟩ (.inl ⟨last, listed, isOpp15⟩)
    rw [newMhz_of_low fits]
  · rw [lastMhz_of_other applied listed isOpp15]
    refine ⟨.inr, ?_⟩
    rintro (⟨other, otherListed, found⟩ | shown)
    · rw [listed, Option.some.injEq] at otherListed
      exact (isOpp15 (otherListed ▸ found)).elim
    · exact shown

/-- An unchanged voltage is the stock text, cell by cell. -/
theorem microvolt_of_unchanged
    {littleHzHex bigHzHex : Text}
    (accepted : StockRead tree stock littleHzHex bigHzHex)
    (unchanged : voltageChanged stock vars = false)
    (applied : applyStage stock vars tree = some final)
    (cluster : Cluster) :
    (propertyAt cluster.path oppMicrovolt final).map cells =
      some (configuredCells (cluster.voltage vars)) := by
  have shown := voltage_eq_stock accepted unchanged cluster
  rw [microvolt, fdtget, Option.map_eq_some_iff] at shown
  obtain ⟨value, here, line⟩ := shown
  have numbers :
      ((cells value).map printUnsigned).map (numeral 10) = cells value := by
    rw [List.map_map]
    calc
      (cells value).map (numeral 10 ∘ printUnsigned) =
          (cells value).map id :=
        List.map_congr_left fun cell _ => Nat.ofDigitChars_ten_toDigits
      _ = cells value := List.map_id _
  rw [Cluster.path, oppMicrovolt_of_unchanged unchanged applied, here,
    Option.map_some, configuredCells, ← line, words_showData]
  exact congrArg some numbers.symm

/-- A typed voltage is its number exactly if it is stored as shown. -/
theorem microvolt_iff_of_changed
    (changed : voltageChanged stock vars = true)
    (applied : applyStage stock vars tree = some final)
    (cluster : Cluster)
    (decimal : isDecimal (cluster.voltage vars) = true) :
    (propertyAt cluster.path oppMicrovolt final).map cells =
        some (configuredCells (cluster.voltage vars)) ↔
      StoredAsShown (cluster.voltage vars) := by
  obtain ⟨below, -, written⟩ :=
    microvoltCells_of_changed changed applied cluster decimal
  rw [microvoltCells, Option.bind_eq_some_iff] at written
  obtain ⟨value, here, whole⟩ := written
  split at whole
  · rw [Cluster.path, here, Option.map_some, Option.some.inj whole,
      configuredCells, words_of_solid (solid_of_isDecimal decimal),
      ← stored_eq_iff decimal below]
    simp
  · cases whole

/-- The conditions under which the patched tree is what was configured. -/
structure Carries
    (stock : Stock)
    (vars : Vars)
    (tree : DeviceTree) : Prop where
  fits : ∀ cluster, FitsCell stock vars cluster
  stored :
    voltageChanged stock vars = false ∨
      ∀ cluster : Cluster, StoredAsShown (cluster.voltage vars)
  shows : ∀ cluster, ShowsNew stock vars tree cluster

/-- The patched tree is sound exactly under the conditions. -/
theorem sound_iff_carries
    (read : readStock tree = some stock)
    (typed :
      voltageChanged stock vars = true →
        ∀ cluster : Cluster, isDecimal (cluster.voltage vars) = true)
    (applied : applyStage stock vars tree = some final)
    {report : List (Text × Intmax)}
    (printed : finalLoop [littleTable, bigTable] final = some report) :
    Sound stock vars final report ↔ Carries stock vars tree := by
  obtain ⟨littleHzHex, bigHzHex, accepted⟩ := readStock_eq_some read
  have tables (holds : Text → Prop) :
      (∀ table ∈ [littleTable, bigTable], holds table) ↔
        ∀ cluster : Cluster, holds cluster.table := by
    rw [List.forall_mem_cons, List.forall_mem_singleton]
    refine ⟨?_, fun all => ⟨all .little, all .big⟩⟩
    rintro ⟨little, big⟩ (_ | _)
    · exact little
    · exact big
  have hz :
      (∀ cluster : Cluster, ∃ hz,
          hz64 cluster.table final = some hz ∧
            (hz : Int) = (cluster.newHz stock vars).toInt) ↔
        ∀ cluster, FitsCell stock vars cluster :=
    forall_congr' fun cluster => hz64_eq_newHz_iff applied cluster
  have microvolt :
      (∀ cluster : Cluster,
          (propertyAt cluster.path oppMicrovolt final).map cells =
            some (configuredCells (cluster.voltage vars))) ↔
        voltageChanged stock vars = false ∨
          ∀ cluster : Cluster, StoredAsShown (cluster.voltage vars) := by
    cases changed : voltageChanged stock vars with
    | false =>
        exact iff_of_true
          (microvolt_of_unchanged accepted changed applied) (.inl rfl)
    | true =>
        simp only [Bool.true_eq_false, false_or]
        exact forall_congr' fun cluster =>
          microvolt_iff_of_changed changed applied cluster
            (typed changed cluster)
  have shown
      (fits : ∀ cluster, FitsCell stock vars cluster) :
      (∀ cluster : Cluster, ∃ mhz,
          (cluster.table, mhz) ∈ report ∧
            mhz.toInt = (cluster.newHz stock vars).toInt / 1000000) ↔
        ∀ cluster, ShowsNew stock vars tree cluster := by
    have value (cluster : Cluster) :=
      lastMhz_eq_newMhz_iff applied (fits cluster)
    refine ⟨?_, ?_⟩
    · intro lines cluster
      obtain ⟨mhz, line, isNew⟩ := lines cluster
      exact (value cluster).mp ⟨mhz, lastMhz_of_mem printed line, isNew⟩
    · intro shows cluster
      obtain ⟨mhz, here, isNew⟩ := (value cluster).mpr (shows cluster)
      have member : cluster.table ∈ [littleTable, bigTable] := by
        cases cluster <;> simp [Cluster.table]
      refine ⟨mhz, mem_of_lastMhz printed ?_ member here, isNew⟩
      rw [tables fun table => (lastMhz table final).isSome]
      intro other
      obtain ⟨otherMhz, otherHere, -⟩ := (value other).mpr (shows other)
      rw [otherHere]
      rfl
  refine ⟨?_, ?_⟩
  · rintro ⟨hzHolds, microvoltHolds, shownHolds⟩
    have fits := hz.mp hzHolds
    exact ⟨fits, microvolt.mp microvoltHolds,
      (shown fits).mp shownHolds⟩
  · rintro ⟨fits, stored, shows⟩
    exact ⟨hz.mpr fits, microvolt.mpr stored, (shown fits).mpr shows⟩

/-- A stock tree never holds the sum of itself and some megahertz. -/
theorem not_sound_of_stock
    (read : readStock tree = some stock)
    {n : Nat}
    (positive : 1 ≤ n)
    (bounded : n ≤ 500)
    (added : vars.addHz = some (Int64.ofNat (n * 1000000)))
    (report : List (Text × Intmax)) :
    ¬ Sound stock vars tree report := by
  intro sound
  obtain ⟨littleHzHex, bigHzHex, accepted⟩ := readStock_eq_some read
  obtain ⟨hz, here, isNew⟩ := sound.hz .little
  obtain ⟨value, high, low, atPath, split, lowBound, rfl⟩ :=
    hz64_eq_some here
  rw [newHz_of_cells accepted added .little atPath split,
    Int64.toInt_ofNat_of_lt (by omega)] at isNew
  have same : high * 4294967296 + low = low + n * 1000000 := by
    exact_mod_cast isNew
  omega

end Sound

end OverclockBuilder
