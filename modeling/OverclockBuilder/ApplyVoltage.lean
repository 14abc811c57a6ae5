import OverclockBuilder.ApplyFrame

namespace OverclockBuilder

open RadixText WordText BytePacking CNumber BashText LabelTree

/-!
# The voltages through the apply stage

A typed voltage is one argument of `fdtput -t u`, so it becomes one cell,
whatever the stock property held.  `strtoul` with base zero reads a leading
zero as octal and the store keeps 32 bits; what it cannot read ends the script.
-/

/-- The cells of `opp-microvolt` of `opp15` in a table. -/
def microvoltCells (table : Text) (tree : DeviceTree) : Option (List Nat) :=
  (propertyAt (nodePath table) oppMicrovolt tree).bind fun value =>
    if value.length % 4 = 0 then some (cells value) else none

/-- A typed voltage that `fdtput` refuses. -/
def Refused (text : Text) : Prop :=
  Unreadable text ∨ ulongLimit ≤ numeral (arithmeticBase text) text

/-- A typed voltage that `fdtput` stores as the number it shows. -/
def StoredAsShown (text : Text) : Prop :=
  numeral 10 text < 4294967296 ∧ ReadsAlike text

/-- `fdtput` refuses exactly what it cannot read. -/
theorem encodeCell_eq_none_iff
    {text : Text}
    (decimal : isDecimal text = true) :
    encodeCell .u text = none ↔ Refused text := by
  have digits : allDigits text = true := by
    simp only [isDecimal, Bool.and_eq_true] at decimal
    exact decimal.2
  have readable :
      digitsBelow (arithmeticBase text) text = false ↔ Unreadable text := by
    unfold arithmeticBase Unreadable
    split
    · rename_i leading
      simp [leading]
    · rename_i leading
      simp [leading, digitsBelow_ten digits]
  rw [encodeCell, Option.map_eq_none_iff, Format.base,
    strtoul_zero_of_isDecimal decimal, Refused, ← readable]
  cases digitsBelow (arithmeticBase text) text <;> simp

/-- An accepted argument becomes one cell, in the base `strtoul` selects. -/
theorem encodeCell_eq_some
    {text : Text}
    {bytes : Bytes}
    (decimal : isDecimal text = true)
    (encoded : encodeCell .u text = some bytes) :
    digitsBelow (arithmeticBase text) text = true ∧
      bytes = bigEndian 4 (numeral (arithmeticBase text) text) := by
  rw [encodeCell, Format.base, strtoul_zero_of_isDecimal decimal,
    Option.map_eq_some_iff] at encoded
  obtain ⟨value, read, rfl⟩ := encoded
  split at read
  · rename_i accepted
    rw [← Option.some.inj read]
    exact ⟨accepted.1, rfl⟩
  · cases read

/-- The stored cell is the decimal number exactly if nothing is lost. -/
theorem stored_eq_iff
    {text : Text}
    (decimal : isDecimal text = true)
    (below : digitsBelow (arithmeticBase text) text = true) :
    numeral (arithmeticBase text) text % 4294967296 = numeral 10 text ↔
      StoredAsShown text := by
  have digits : allDigits text = true := by
    simp only [isDecimal, Bool.and_eq_true] at decimal
    exact decimal.2
  unfold StoredAsShown ReadsAlike
  unfold arithmeticBase at below ⊢
  split
  · rename_i leading
    rw [if_pos leading] at below
    have lower : numeral 8 text ≤ numeral 10 text :=
      ofDigitChars_le_ten (by decide) text (Nat.le_refl 0)
    have sameIff := numeral_eq_ten_iff (by decide : 8 < 10) digits
    simp only [leading, forall_const]
    refine ⟨?_, ?_⟩
    · intro stored
      have single : numeral 10 text < 10 := sameIff.mp (by omega)
      have octal :=
        numeral_lt_of_digitsBelow (by decide) below single
      omega
    · rintro ⟨-, small⟩
      have same := sameIff.mpr (by omega)
      omega
  · rename_i leading
    simp only [leading, IsEmpty.forall_iff, and_true]
    omega

/-- A number is one word. -/
theorem solid_of_isDecimal
    {text : Text}
    (decimal : isDecimal text = true) :
    Solid isIfsBlank text := by
  simp only [isDecimal, Bool.and_eq_true, Bool.not_eq_true',
    List.isEmpty_eq_false_iff, allDigits, List.all_eq_true] at decimal
  obtain ⟨nonempty, digits⟩ := decimal
  refine ⟨nonempty, ?_⟩
  intro digit member
  have isDigit := digits digit member
  cases blank : isIfsBlank digit with
  | false =>
      rfl
  | true =>
      simp only [isIfsBlank, Bool.or_eq_true, decide_eq_true_eq] at blank
      rcases blank with (rfl | rfl) | rfl <;>
        exact absurd isDigit (by decide)

/-- A stock text of decimal digits is one cell that is stored as shown. -/
theorem single_of_isDecimal
    {value : Bytes}
    (decimal : isDecimal (showData .u value) = true)
    (whole : value.length % 4 = 0) :
    ∃ cell,
      cells value = [cell] ∧
        numeral 10 (showData .u value) = cell ∧
          StoredAsShown (showData .u value) := by
  have solid := solid_of_isDecimal decimal
  have single := words_showData .u value
  rw [words_of_solid solid] at single
  rcases split : cells value with _ | ⟨cell, _ | ⟨next, rest⟩⟩
  · rw [split] at single
    cases single
  · rw [split, List.map_cons, List.map_nil, List.cons.injEq] at single
    have shown : showData .u value = Nat.toDigits 10 cell := single.1
    have number : numeral 10 (showData .u value) = cell := by
      rw [shown]
      exact Nat.ofDigitChars_ten_toDigits
    have bounded : cell < 4294967296 :=
      (packWords_cells whole).2.2 cell (by simp [split])
    refine ⟨cell, rfl, number, number.symm ▸ bounded, ?_⟩
    intro leading
    rw [shown] at leading
    rw [number, eq_zero_of_head_toDigits leading]
    decide
  · rw [split] at single
    simp at single

/-! ## Runs of the stage -/

/-- Every frequency can be written. -/
theorem exists_encodeValue_hz (newHz : Intmax) :
    ∃ value, encodeValue .x [['0'], printfHex newHz] = some value := by
  have zero : strtoul 16 ['0'] = some 0 := by
    decide
  have sum : strtoul 16 (printfHex newHz) = some newHz.toUInt64.toNat :=
    strtoul_printHex newHz.toUInt64.toNat_lt
  simp [encodeValue, encodeCell, Format.base, zero, sum]

theorem encodeValue_single (text : Text) :
    encodeValue .u [text] = encodeCell .u text := by
  rw [encodeValue, List.mapM_cons]
  cases encodeCell .u text <;> simp

/-- The stage fails exactly on a voltage that `fdtput` refuses. -/
theorem exists_applyStage
    {tree : DeviceTree}
    {stock : Stock}
    {vars : Vars}
    (read : readStock tree = some stock)
    (encodes :
      voltageChanged stock vars = true →
        ∀ cluster : Cluster,
          ∃ bytes, encodeCell .u (cluster.voltage vars) = some bytes) :
    ∃ final, applyStage stock vars tree = some final := by
  obtain ⟨littleHzHex, bigHzHex, accepted⟩ := readStock_eq_some read
  rw [applyStage_eq_applyPass, applyPass, if_pos accepted.tables]
  apply exists_runCalls
  intro call member
  rw [mem_applyCalls] at member
  have found (cluster : Cluster) :
      ∃ address, pathOffset cluster.path tree = some address := by
    have present := (accepted.present cluster).1
    unfold propertyAt at present
    cases here : pathOffset cluster.path tree with
    | none =>
        simp [here] at present
    | some address =>
        exact ⟨address, rfl⟩
  obtain ⟨cluster, rfl | ⟨changed, rfl⟩⟩ := member
  · exact ⟨exists_encodeValue_hz _, found cluster⟩
  · refine ⟨?_, found cluster⟩
    simpa only [putMicrovolt, encodeValue_single] using
      encodes changed cluster

/-- A changed voltage leaves one cell, read with base zero. -/
theorem microvoltCells_of_changed
    {tree final : DeviceTree}
    {stock : Stock}
    {vars : Vars}
    (changed : voltageChanged stock vars = true)
    (applied : applyStage stock vars tree = some final)
    (cluster : Cluster)
    (decimal : isDecimal (cluster.voltage vars) = true) :
    digitsBelow (arithmeticBase (cluster.voltage vars))
          (cluster.voltage vars) = true ∧
      ¬ Refused (cluster.voltage vars) ∧
        microvoltCells cluster.table final =
          some
            [numeral (arithmeticBase (cluster.voltage vars))
                (cluster.voltage vars) % 4294967296] := by
  have member :
      putMicrovolt cluster.table (cluster.voltage vars) ∈
        applyCalls stock vars :=
    (mem_applyCalls stock vars).mpr ⟨cluster, .inr ⟨changed, rfl⟩⟩
  have inPlace := propertyAt_applyStage applied member
  rw [applyStage_eq_applyPass] at applied
  obtain ⟨⟨bytes, encoded⟩, -⟩ :=
    runCalls_succeeds (applyPass_eq_some applied).2 member
  rw [encoded] at inPlace
  simp only [putMicrovolt, encodeValue_single] at encoded inPlace
  obtain ⟨below, rfl⟩ := encodeCell_eq_some decimal encoded
  refine ⟨below, ?_, ?_⟩
  · rw [← encodeCell_eq_none_iff decimal, encoded]
    simp
  · have single := cells_packWords
      [numeral (arithmeticBase (cluster.voltage vars))
        (cluster.voltage vars)]
    simp only [packWords, List.flatMap_cons, List.flatMap_nil, List.append_nil,
      List.map_cons, List.map_nil] at single
    rw [microvoltCells, inPlace, Option.bind_some,
      if_pos (by rw [length_bigEndian]), single]

/-- An unchanged voltage leaves the stock property. -/
theorem oppMicrovolt_of_unchanged
    {tree final : DeviceTree}
    {stock : Stock}
    {vars : Vars}
    (unchanged : voltageChanged stock vars = false)
    (applied : applyStage stock vars tree = some final)
    (table : Text) :
    propertyAt (nodePath table) oppMicrovolt final =
      propertyAt (nodePath table) oppMicrovolt tree := by
  rw [applyStage_eq_applyPass] at applied
  apply propertyAt_runCalls_of_forall (applyPass_eq_some applied).2
  intro call member
  rw [mem_applyCalls] at member
  obtain ⟨cluster, rfl | ⟨changed, -⟩⟩ := member
  · exact .inr oppHz_ne_oppMicrovolt.symm
  · rw [unchanged] at changed
    cases changed

/-- An unchanged voltage leaves the stock cells. -/
theorem microvoltCells_of_unchanged
    {tree final : DeviceTree}
    {stock : Stock}
    {vars : Vars}
    (unchanged : voltageChanged stock vars = false)
    (applied : applyStage stock vars tree = some final)
    (table : Text) :
    microvoltCells table final = microvoltCells table tree := by
  rw [microvoltCells, microvoltCells,
    oppMicrovolt_of_unchanged unchanged applied]

/-- An unchanged pair shows the stock texts. -/
theorem voltage_eq_stock
    {tree : DeviceTree}
    {stock : Stock}
    {vars : Vars}
    {littleHzHex bigHzHex : Text}
    (accepted : StockRead tree stock littleHzHex bigHzHex)
    (unchanged : voltageChanged stock vars = false)
    (cluster : Cluster) :
    microvolt cluster.table tree = some (cluster.voltage vars) := by
  simp only [voltageChanged, Bool.or_eq_false_iff, bne_eq_false_iff_eq]
    at unchanged
  cases cluster with
  | little =>
      rw [Cluster.voltage, unchanged.1]
      exact accepted.littleVoltage
  | big =>
      rw [Cluster.voltage, unchanged.2]
      exact accepted.bigVoltage

/-- The written property has the stock shape and starts with the number. -/
def Faithful (text : Text) (before after : List Nat) : Prop :=
  after.length = before.length ∧ after.head? = some (numeral 10 text)

/-- With a changed voltage, one node is faithful if nothing is lost. -/
theorem faithful_iff_of_changed
    {tree final : DeviceTree}
    {stock : Stock}
    {vars : Vars}
    (changed : voltageChanged stock vars = true)
    (applied : applyStage stock vars tree = some final)
    (cluster : Cluster)
    (decimal : isDecimal (cluster.voltage vars) = true)
    (before : List Nat) :
    (∃ after,
        microvoltCells cluster.table final = some after ∧
          Faithful (cluster.voltage vars) before after) ↔
      before.length = 1 ∧ StoredAsShown (cluster.voltage vars) := by
  obtain ⟨below, -, written⟩ :=
    microvoltCells_of_changed changed applied cluster decimal
  rw [written]
  simp only [Option.some.injEq, exists_eq_left', Faithful,
    List.length_singleton, List.head?_cons, stored_eq_iff decimal below,
    eq_comm (a := 1)]

/-- With the stock texts typed again, every node stays faithful. -/
theorem faithful_of_unchanged
    {tree final : DeviceTree}
    {stock : Stock}
    {vars : Vars}
    {littleHzHex bigHzHex : Text}
    (accepted : StockRead tree stock littleHzHex bigHzHex)
    (unchanged : voltageChanged stock vars = false)
    (applied : applyStage stock vars tree = some final)
    (cluster : Cluster)
    (decimal : isDecimal (cluster.voltage vars) = true)
    {before : List Nat}
    (here : microvoltCells cluster.table tree = some before) :
    (∃ after,
        microvoltCells cluster.table final = some after ∧
          Faithful (cluster.voltage vars) before after) ∧
      before.length = 1 ∧ StoredAsShown (cluster.voltage vars) := by
  have shown := voltage_eq_stock accepted unchanged cluster
  rw [microvolt, fdtget, Option.map_eq_some_iff] at shown
  obtain ⟨value, atPath, line⟩ := shown
  rw [microvoltCells, atPath, Option.bind_some] at here
  by_cases whole : value.length % 4 = 0
  · rw [if_pos whole, Option.some.injEq] at here
    rw [← line] at decimal ⊢
    obtain ⟨cell, single, number, stored⟩ :=
      single_of_isDecimal decimal whole
    have before' : before = [cell] := here.symm.trans single
    refine ⟨⟨before, ?_, rfl, ?_⟩, by rw [before']; rfl, stored⟩
    · rw [microvoltCells_of_unchanged unchanged applied, microvoltCells,
        atPath, Option.bind_some, if_pos whole, here]
    · rw [before', number]
      rfl
  · rw [if_neg whole] at here
    cases here

/--
A typed pair reaches both nodes with the stock shape and the shown numbers, or
stops the script, exactly when `fdtput` refuses one of the texts or when both
stock values are single cells and both texts are stored as shown.
-/
theorem applyStage_voltage_iff
    {tree : DeviceTree}
    {stock : Stock}
    {vars : Vars}
    {littleCells bigCells : List Nat}
    (read : readStock tree = some stock)
    (little : microvoltCells littleTable tree = some littleCells)
    (big : microvoltCells bigTable tree = some bigCells)
    (littleTyped : isDecimal vars.littleVoltage = true)
    (bigTyped : isDecimal vars.bigVoltage = true) :
    (∀ final,
        applyStage stock vars tree = some final →
          (∃ after,
              microvoltCells littleTable final = some after ∧
                Faithful vars.littleVoltage littleCells after) ∧
            ∃ after,
              microvoltCells bigTable final = some after ∧
                Faithful vars.bigVoltage bigCells after) ↔
      Refused vars.littleVoltage ∨ Refused vars.bigVoltage ∨
        (littleCells.length = 1 ∧ StoredAsShown vars.littleVoltage) ∧
          bigCells.length = 1 ∧ StoredAsShown vars.bigVoltage := by
  obtain ⟨littleHzHex, bigHzHex, accepted⟩ := readStock_eq_some read
  cases changed : voltageChanged stock vars with
  | true =>
      have equivalent (final : DeviceTree)
          (applied : applyStage stock vars tree = some final) :=
        and_congr
          (faithful_iff_of_changed changed applied .little littleTyped
            littleCells)
          (faithful_iff_of_changed changed applied .big bigTyped bigCells)
      refine ⟨?_, ?_⟩
      · intro faithful
        by_cases littleRefused : Refused vars.littleVoltage
        · exact .inl littleRefused
        · by_cases bigRefused : Refused vars.bigVoltage
          · exact .inr (.inl bigRefused)
          · -- nothing is refused, so the stage has a result to be faithful
            have encodes (cluster : Cluster) :
                ∃ bytes,
                  encodeCell .u (cluster.voltage vars) = some bytes := by
              rw [← Option.ne_none_iff_exists']
              cases cluster with
              | little =>
                  exact (encodeCell_eq_none_iff littleTyped).not.mpr
                    littleRefused
              | big =>
                  exact (encodeCell_eq_none_iff bigTyped).not.mpr
                    bigRefused
            obtain ⟨final, applied⟩ :=
              exists_applyStage read fun _ => encodes
            exact .inr (.inr
              ((equivalent final applied).mp (faithful final applied)))
      · intro condition final applied
        refine (equivalent final applied).mpr ?_
        rcases condition with littleRefused | bigRefused | stored
        · exact ((microvoltCells_of_changed changed applied .little
            littleTyped).2.1 littleRefused).elim
        · exact ((microvoltCells_of_changed changed applied .big
            bigTyped).2.1 bigRefused).elim
        · exact stored
  | false =>
      have faithful (final : DeviceTree)
          (applied : applyStage stock vars tree = some final) :=
        And.intro
          (faithful_of_unchanged accepted changed applied .little
            littleTyped little)
          (faithful_of_unchanged accepted changed applied .big bigTyped
            big)
      have completes : ∃ final, applyStage stock vars tree = some final :=
        exists_applyStage read (by simp [changed])
      obtain ⟨final, applied⟩ := completes
      refine ⟨fun _ => ?_, fun _ => ?_⟩
      · exact .inr (.inr
          ⟨(faithful final applied).1.2, (faithful final applied).2.2⟩)
      · intro other otherApplied
        exact ⟨(faithful other otherApplied).1.1,
          (faithful other otherApplied).2.1⟩

theorem applyStage_voltage_iff_example :
    (∀ final,
        applyStage readmeStock exampleVars readmeTree = some final →
          (∃ after,
              microvoltCells littleTable final = some after ∧
                Faithful exampleVars.littleVoltage [1006250] after) ∧
            ∃ after,
              microvoltCells bigTable final = some after ∧
                Faithful exampleVars.bigVoltage [1087500] after) ↔
      Refused exampleVars.littleVoltage ∨
        Refused exampleVars.bigVoltage ∨
          ([1006250].length = 1 ∧
              StoredAsShown exampleVars.littleVoltage) ∧
            [1087500].length = 1 ∧
              StoredAsShown exampleVars.bigVoltage :=
  applyStage_voltage_iff (by decide +kernel) (by decide +kernel)
    (by decide +kernel) (by decide) (by decide)

/-- A three-cell stock voltage shrinks to one cell. -/
theorem applyStage_voltage_shrinks :
    ¬ ∀ tree stock vars littleCells bigCells,
      readStock tree = some stock →
        microvoltCells littleTable tree = some littleCells →
          microvoltCells bigTable tree = some bigCells →
            isDecimal vars.littleVoltage = true →
              isDecimal vars.bigVoltage = true →
                ∀ final,
                  applyStage stock vars tree = some final →
                    (∃ after,
                        microvoltCells littleTable final = some after ∧
                          Faithful vars.littleVoltage littleCells
                            after) ∧
                      ∃ after,
                        microvoltCells bigTable final = some after ∧
                          Faithful vars.bigVoltage bigCells after := by
  intro claim
  let tree :=
    stockTree 1800000000 2000000000 [1006250, 1006250, 1100000] [1087500]
  let stock :=
    { readmeStock with
      littleVoltageStock := "1006250 1006250 1100000".toList }
  have written :
      (applyStage stock exampleVars tree).bind
          (microvoltCells littleTable) =
        some [1010000] := by
    decide +kernel
  rw [Option.bind_eq_some_iff] at written
  obtain ⟨final, applied, shrunk⟩ := written
  obtain ⟨⟨after, here, faithful⟩, -⟩ :=
    claim tree stock exampleVars [1006250, 1006250, 1100000] [1087500]
      (by decide +kernel) (by decide +kernel) (by decide +kernel)
      (by decide) (by decide) final applied
  rw [shrunk, Option.some.injEq] at here
  subst here
  exact absurd faithful.1 (by decide)

end OverclockBuilder
