import OverclockBuilder.ApplyFrame

namespace OverclockBuilder

open RadixText WordText BytePacking CNumber BashText LabelTree

/-!
# The frequency through the apply stage

A 64-bit `opp-hz` is printed as two hexadecimal cells.  The script keeps the
second one, adds in decimal, and writes a zero cell in front of the sum, which
`fdtput` stores in 32 bits.  So the stage adds exactly while everything fits
into the low cell.
-/

/-- The 64-bit `opp-hz` of `opp15` in a table. -/
def hz64 (table : Text) (tree : DeviceTree) : Option Nat :=
  (propertyAt (nodePath table) oppHz tree).bind fun value =>
    if value.length = 8 then some (ofBigEndian value) else none

/-- A 64-bit property is a high and a low cell. -/
theorem hz64_eq_some
    {table : Text}
    {tree : DeviceTree}
    {hz : Nat}
    (here : hz64 table tree = some hz) :
    ∃ value high low,
      propertyAt (nodePath table) oppHz tree = some value ∧
        cells value = [high, low] ∧
          low < 4294967296 ∧ hz = high * 4294967296 + low := by
  rw [hz64, Option.bind_eq_some_iff] at here
  obtain ⟨value, atPath, read⟩ := here
  by_cases eight : value.length = 8
  · obtain ⟨bytes, length, bounded⟩ :=
      packWords_cells (show value.length % 4 = 0 by omega)
    rcases split : cells value with
      _ | ⟨high, _ | ⟨low, _ | ⟨next, rest⟩⟩⟩
    · rw [split, eight] at length
      simp at length
    · rw [split, eight] at length
      simp at length
    · rw [split] at bytes bounded
      have highBound := bounded high (by simp)
      have lowBound := bounded low (by simp)
      refine ⟨value, high, low, atPath, split, lowBound, ?_⟩
      rw [if_pos eight, Option.some.injEq] at read
      rw [← read, ← bytes]
      simp only [packWords, List.flatMap_cons, List.flatMap_nil,
        List.append_nil]
      rw [ofBigEndian_append, ofBigEndian_bigEndian,
        ofBigEndian_bigEndian, length_bigEndian]
      norm_num
      omega
    · rw [split, eight] at length
      simp at length
      omega
  · rw [if_neg eight] at read
    cases read

/-- The script reads the low cell. -/
theorem hzHex_of_cells
    {table : Text}
    {tree : DeviceTree}
    {value : Bytes}
    {high low : Nat}
    (here : propertyAt (nodePath table) oppHz tree = some value)
    (split : cells value = [high, low]) :
    hzHex table tree = some (printHex low) := by
  rw [hzHex, fdtget, here, Option.map_some, Option.map_some, awkField,
    words_showData, split]
  rfl

/-- `$((16#..))` reads back a printed cell. -/
theorem strlongHex_printHex (value : Nat) :
    strlongHex (printHex value) = some (Int64.ofNat value) := by
  have read := strlongFrom_ofNat 16 (printHex value) 0
  rw [printHex, scanDigits_toDigits (by decide) (by decide)] at read
  exact read

/-- `printf '%x'` of a sum that stays far below the sign. -/
theorem printfHex_ofNat
    {value : Nat}
    (small : value < 2 ^ 63) :
    printfHex (Int64.ofNat value) = printHex value := by
  have unsigned : (Int64.ofNat value).toUInt64.toNat = value := by
    change (UInt64.ofNat value).toNat = value
    rw [UInt64.toNat_ofNat']
    exact Nat.mod_eq_of_lt (Nat.lt_trans small (by decide))
  rw [printfHex, unsigned]

/-- `fdtput -t x .. 0 HEX` writes a zero cell and the low 32 bits. -/
theorem encodeValue_hz
    {value : Nat}
    (small : value < 2 ^ 63) :
    encodeValue .x [['0'], printfHex (Int64.ofNat value)] =
      some (bigEndian 4 0 ++ bigEndian 4 value) := by
  have zero : strtoul 16 ['0'] = some 0 := by
    decide
  have sum : strtoul 16 (printHex value) = some value :=
    strtoul_printHex (Nat.lt_trans small (by decide))
  rw [printfHex_ofNat small]
  simp [encodeValue, encodeCell, Format.base, zero, sum]

/-- The new frequency is the low stock cell and what the menus add. -/
theorem newHz_of_cells
    {tree : DeviceTree}
    {stock : Stock}
    {vars : Vars}
    {littleHzHex bigHzHex : Text}
    (accepted : StockRead tree stock littleHzHex bigHzHex)
    {n : Nat}
    (added : vars.addHz = some (Int64.ofNat (n * 1000000)))
    (cluster : Cluster)
    {value : Bytes}
    {high low : Nat}
    (atPath : propertyAt (nodePath cluster.table) oppHz tree = some value)
    (split : cells value = [high, low]) :
    cluster.newHz stock vars = Int64.ofNat (low + n * 1000000) := by
  have shown := hzHex_of_cells atPath split
  cases cluster with
  | little =>
      have hex := Option.some.inj (accepted.littleHz.symm.trans shown)
      have stored := accepted.littleValue
      rw [hex, strlongHex_printHex, Option.some.injEq] at stored
      rw [Cluster.newHz, littleNewHz, added, ← stored, Int64.ofNat_add]
      rfl
  | big =>
      have hex := Option.some.inj (accepted.bigHz.symm.trans shown)
      have stored := accepted.bigValue
      rw [hex, strlongHex_printHex, Option.some.injEq] at stored
      rw [Cluster.newHz, bigNewHz, added, ← stored, Int64.ofNat_add]
      rfl

/-- What the stage leaves in one node: the low 32 bits of the sum. -/
theorem hz64_applyStage
    {tree final : DeviceTree}
    {stock : Stock}
    {vars : Vars}
    {n hz : Nat}
    (read : readStock tree = some stock)
    (bounded : n ≤ 500)
    (added : vars.addHz = some (Int64.ofNat (n * 1000000)))
    (applied : applyStage stock vars tree = some final)
    (cluster : Cluster)
    (here : hz64 cluster.table tree = some hz) :
    hz64 cluster.table final =
      some ((hz % 4294967296 + n * 1000000) % 4294967296) := by
  obtain ⟨littleHzHex, bigHzHex, accepted⟩ := readStock_eq_some read
  obtain ⟨value, high, low, atPath, split, lowBound, rfl⟩ :=
    hz64_eq_some here
  have newHz := newHz_of_cells accepted added cluster atPath split
  have small : low + n * 1000000 < 2 ^ 63 := by
    omega
  have written :
      propertyAt (nodePath cluster.table) oppHz final =
        some (bigEndian 4 0 ++ bigEndian 4 (low + n * 1000000)) := by
    rw [← encodeValue_hz small, ← newHz]
    exact propertyAt_applyStage applied
      ((mem_applyCalls stock vars).mpr ⟨cluster, .inl rfl⟩)
  rw [hz64, written, Option.bind_some,
    if_pos (by simp [length_bigEndian]), ofBigEndian_append,
    ofBigEndian_bigEndian, ofBigEndian_bigEndian, length_bigEndian]
  norm_num

/-- The low cell carries the sum exactly when the sum fits into it. -/
theorem wrapped_sum_eq_iff (hz added : Nat) :
    (hz % 4294967296 + added) % 4294967296 = hz + added ↔
      hz + added < 4294967296 := by
  omega

/--
The two apply blocks together add the configured frequency once, as a 64-bit
number, to both nodes exactly when both sums fit into 32 bits.
-/
theorem applyStage_hz_iff
    {tree final : DeviceTree}
    {stock : Stock}
    {vars : Vars}
    {n littleHz bigHz : Nat}
    (read : readStock tree = some stock)
    (little : hz64 littleTable tree = some littleHz)
    (big : hz64 bigTable tree = some bigHz)
    (bounded : n ≤ 500)
    (added : vars.addHz = some (Int64.ofNat (n * 1000000)))
    (applied : applyStage stock vars tree = some final) :
    (hz64 littleTable final = some (littleHz + n * 1000000) ∧
        hz64 bigTable final = some (bigHz + n * 1000000)) ↔
      littleHz + n * 1000000 < 4294967296 ∧
        bigHz + n * 1000000 < 4294967296 := by
  have littleWritten :=
    hz64_applyStage read bounded added applied .little little
  have bigWritten := hz64_applyStage read bounded added applied .big big
  simp only [Cluster.table] at littleWritten bigWritten
  rw [littleWritten, bigWritten, Option.some.injEq, Option.some.injEq,
    wrapped_sum_eq_iff, wrapped_sum_eq_iff]

theorem applyStage_hz_iff_example :
    ∃ final,
      applyStage readmeStock exampleVars readmeTree = some final ∧
        (hz64 littleTable final = some (1800000000 + 50 * 1000000) ∧
            hz64 bigTable final = some (2000000000 + 50 * 1000000) ↔
          1800000000 + 50 * 1000000 < 4294967296 ∧
            2000000000 + 50 * 1000000 < 4294967296) := by
  have completes :
      (applyStage readmeStock exampleVars readmeTree).isSome := by
    decide +kernel
  obtain ⟨final, applied⟩ := Option.isSome_iff_exists.mp completes
  exact ⟨final, applied,
    applyStage_hz_iff (by decide +kernel) (by decide +kernel)
      (by decide +kernel) (by decide) (by decide +kernel) applied⟩

/-- A big cluster just below 2^32 Hz wraps around to 55 MHz. -/
theorem applyStage_hz_wraps :
    ¬ ∀ tree final stock vars n littleHz bigHz,
      readStock tree = some stock →
        hz64 littleTable tree = some littleHz →
          hz64 bigTable tree = some bigHz →
            1 ≤ n → n ≤ 500 →
              vars.addHz = some (Int64.ofNat (n * 1000000)) →
                applyStage stock vars tree = some final →
                  hz64 littleTable final =
                      some (littleHz + n * 1000000) ∧
                    hz64 bigTable final =
                      some (bigHz + n * 1000000) := by
  intro claim
  let tree := stockTree 1800000000 4250000000 [1006250] [1087500]
  let stock := { readmeStock with bigHz := 4250000000 }
  let vars :=
    { Vars.initial stock with addHz := some (Int64.ofNat (100 * 1000000)) }
  have written :
      (applyStage stock vars tree).bind (hz64 bigTable) = some 55032704 := by
    decide +kernel
  rw [Option.bind_eq_some_iff] at written
  obtain ⟨final, applied, wrapped⟩ := written
  have exactSum :=
    (claim tree final stock vars 100 1800000000 4250000000
      (by decide +kernel) (by decide +kernel) (by decide +kernel)
      (by decide) (by decide) rfl applied).2
  rw [wrapped] at exactSum
  revert exactSum
  decide

end OverclockBuilder
