import OverclockBuilder.ApplyStage
import OverclockBuilder.FdtStore

namespace OverclockBuilder

open RadixText WordText BytePacking ByteMemory LabelTree BashText

/-!
# fdtput on bytes

The file that `fdtput` writes is packed, and it can be edited again.  Calls on
the bytes of a file do what calls on its tree do, one after the other.
-/

/-! ## Packing -/

section Packing

variable {fdt : Fdt} {count : Nat} {head block gap strings tail : Bytes}

/-- The memory reservations in front of the blocks. -/
def reservations (fdt : Fdt) (count : Nat) (head : Bytes) : Bytes :=
  slice fdt.header.offMemRsvmap (16 * (count + 1)) head

theorem Layout.length_reservations
    (layout : Layout fdt count head block gap strings tail) :
    (reservations fdt count head).length = 16 * (count + 1) := by
  have stop := layout.rsvEnd
  rw [reservations, slice, List.length_take, List.length_drop]
  omega

/-- The blocks move towards the header one after the other. -/
theorem Layout.packblocks
    (layout : Layout fdt count head block gap strings tail) :
    slice 40 (16 * (count + 1) + block.length + strings.length)
        (fdt.packblocks (16 * (count + 1)) block.length
          strings.length).buffer =
      reservations fdt count head ++ (block ++ strings) := by
  have start := layout.rsvStart
  have stop := layout.rsvEnd
  have data := layout.dataSize
  have inside := layout.inside
  have inBuffer := layout.inBuffer
  have structPlace := layout.offDtStruct
  have stringsPlace := layout.offDtStrings
  have reserved :
      slice fdt.header.offMemRsvmap (16 * (count + 1)) fdt.buffer =
        reservations fdt count head := by
    have front :
        fdt.buffer.take head.length = head.take head.length := by
      rw [layout.buffer, List.take_left, List.take_length]
    rw [reservations, slice_congr front stop]
  have reservedLength := layout.length_reservations
  have blockThere :
      slice fdt.header.offDtStruct block.length fdt.buffer = block := by
    rw [structPlace, layout.buffer]
    exact slice_middle rfl rfl _
  have stringsThere :
      slice fdt.header.offDtStrings strings.length fdt.buffer =
        strings := by
    have found := layout.strings_eq
    rwa [Fdt.strings, layout.sizeDtStrings] at found
  let first := memmove 40 fdt.header.offMemRsvmap (16 * (count + 1))
    fdt.buffer
  have firstEq : first = overwrite 40 (reservations fdt count head)
      fdt.buffer := by
    simp only [first, memmove, reserved]
  have firstLength : first.length = fdt.buffer.length := by
    rw [firstEq, length_overwrite (by omega)]
  let second := memmove (40 + 16 * (count + 1)) fdt.header.offDtStruct
    block.length first
  have secondEq : second = overwrite (40 + 16 * (count + 1)) block first := by
    have moved :
        slice fdt.header.offDtStruct block.length first = block := by
      rw [firstEq, slice_overwrite_of_behind (by omega) (by omega),
        blockThere]
    simp only [second, memmove, moved]
  have secondLength : second.length = fdt.buffer.length := by
    rw [secondEq, length_overwrite (by omega), firstLength]
  have third :
      (fdt.packblocks (16 * (count + 1)) block.length
          strings.length).buffer =
        overwrite (40 + 16 * (count + 1) + block.length) strings
          second := by
    have moved :
        slice fdt.header.offDtStrings strings.length second = strings := by
      rw [secondEq, slice_overwrite_of_behind (by omega) (by omega),
        firstEq, slice_overwrite_of_behind (by omega) (by omega),
        stringsThere]
    simp only [Fdt.packblocks]
    rw [memmove, show slice fdt.header.offDtStrings strings.length
      (memmove (40 + 16 * (count + 1)) fdt.header.offDtStruct block.length
        (memmove 40 fdt.header.offMemRsvmap (16 * (count + 1))
          fdt.buffer)) = strings from moved]
  rw [third, slice_add, slice_add]
  have atReservations :
      slice 40 (16 * (count + 1))
          (overwrite (40 + 16 * (count + 1) + block.length) strings
            second) =
        reservations fdt count head := by
    rw [slice_overwrite_of_before (by omega) (by omega), secondEq,
      slice_overwrite_of_before (by omega) (by omega), firstEq,
      ← reservedLength, slice_overwrite_self (by omega)]
  have atBlock :
      slice (40 + 16 * (count + 1)) block.length
          (overwrite (40 + 16 * (count + 1) + block.length) strings
            second) =
        block := by
    rw [slice_overwrite_of_before (by omega) (by omega), secondEq,
      slice_overwrite_self (by omega)]
  have atStrings :
      slice (40 + (16 * (count + 1) + block.length)) strings.length
          (overwrite (40 + 16 * (count + 1) + block.length) strings
            second) =
        strings := by
    rw [← Nat.add_assoc, slice_overwrite_self (by omega)]
  rw [atReservations, atBlock, atStrings, List.append_assoc]

/-- The header of a packed blob. -/
def packedHeader
    (fdt : Fdt)
    (count : Nat)
    (block strings : Bytes) :
    FdtHeader :=
  { fdt.downgradeVersion.header with
    totalsize := 40 + 16 * (count + 1) + block.length + strings.length
    offMemRsvmap := 40
    offDtStruct := 40 + 16 * (count + 1)
    offDtStrings := 40 + 16 * (count + 1) + block.length
    sizeDtStrings := strings.length
    sizeDtStruct := block.length }

/-- A packed blob is its header, its reservations and its two blocks. -/
theorem Layout.pack
    (layout : Layout fdt count head block gap strings tail) :
    fdt.pack.file =
      packWords (packedHeader fdt count block strings).words ++
        (reservations fdt count head ++ (block ++ strings)) := by
  obtain ⟨probed, -⟩ := layout.downgradeVersion
  have same :
      reservations fdt.downgradeVersion count head =
        reservations fdt count head := by
    rw [reservations, reservations, Fdt.downgradeVersion]
    split <;> rfl
  have packed := probed.packblocks
  rw [same] at packed
  have header :
      fdt.pack.header = packedHeader fdt count block strings := by
    rw [Fdt.pack, layout.rwProbe]
    dsimp only
    rw [probed.numMemRsv]
    simp only [Fdt.packblocks, Fdt.dataSize, probed.sizeDtStruct,
      probed.sizeDtStrings]
    rfl
  have buffer :
      fdt.pack.buffer =
        (fdt.downgradeVersion.packblocks (16 * (count + 1)) block.length
          strings.length).buffer := by
    rw [Fdt.pack, layout.rwProbe]
    dsimp only
    rw [probed.numMemRsv]
    simp only [probed.sizeDtStruct, probed.sizeDtStrings]
  have words : (packWords fdt.pack.header.words).length = 40 := by
    rw [length_packWords]
    rfl
  have total :
      fdt.pack.header.totalsize =
        (packWords fdt.pack.header.words).length +
          (16 * (count + 1) + block.length + strings.length) := by
    rw [words, header]
    simp only [packedHeader]
    omega
  rw [Fdt.file, total, List.take_length_add_append, buffer, header]
  exact congrArg _ packed

/-- Every word of the packed header fits. -/
theorem Layout.words_packedHeader
    (layout : Layout fdt count head block gap strings tail) :
    ∀ word ∈ (packedHeader fdt count block strings).words,
      word < 4294967296 := by
  obtain ⟨probed, -⟩ := layout.downgradeVersion
  have words := probed.words
  have data := layout.dataSize
  have inside := layout.inside
  have small := layout.small
  have start := layout.rsvStart
  have stop := layout.rsvEnd
  simp only [packedHeader, FdtHeader.words, List.mem_cons,
    List.not_mem_nil, or_false, forall_eq_or_imp, forall_eq] at words ⊢
  omega

/-- The header words of a file are read back. -/
theorem readFdtHeader_packWords
    {header : FdtHeader}
    (bounded : ∀ word ∈ header.words, word < 4294967296)
    (latest : 17 ≤ header.version)
    (rest : Bytes) :
    readFdtHeader (packWords header.words ++ rest) = some header := by
  rw [readFdtHeader, List.take_left' (by rw [length_packWords]; rfl),
    unpackWords_of_bounded bounded]
  simp only [FdtHeader.words]
  rw [if_pos latest]

/-- The packed file is a blob with the same blocks. -/
theorem Layout.readFdt_pack
    (layout : Layout fdt count head block gap strings tail) :
    ∃ head',
      readFdt fdt.pack.file =
          some ⟨packedHeader fdt count block strings, fdt.pack.file⟩ ∧
        Layout ⟨packedHeader fdt count block strings, fdt.pack.file⟩ count
          head' block [] strings [] ∧
        fdt.pack.file.length =
          40 + 16 * (count + 1) + block.length + strings.length := by
  obtain ⟨probed, same⟩ := layout.downgradeVersion
  have packed := layout.pack
  have bounded := layout.words_packedHeader
  have data := layout.dataSize
  have inside := layout.inside
  have small := layout.small
  have start := layout.rsvStart
  have stop := layout.rsvEnd
  have reserved := layout.length_reservations
  have wordsLength :
      (packWords (packedHeader fdt count block strings).words).length =
        40 := by
    rw [length_packWords]
    rfl
  have total :
      fdt.pack.file.length =
        40 + 16 * (count + 1) + block.length + strings.length := by
    rw [packed]
    simp only [List.length_append, wordsLength, reserved]
    omega
  refine ⟨packWords (packedHeader fdt count block strings).words ++
    reservations fdt count head, ?_, ?_, total⟩
  · rw [readFdt]
    have read :=
      readFdtHeader_packWords bounded probed.version
        (reservations fdt count head ++ (block ++ strings))
    rw [← packed] at read
    rw [read, Option.map_some]
  · have entry {index : Nat} (within : index ≤ count) :
        reservedSize 40 index
            (packWords (packedHeader fdt count block strings).words ++
              reservations fdt count head) =
          reservedSize fdt.header.offMemRsvmap index head := by
      have moved :
          slice (40 + 16 * index + 8) 8
              (packWords (packedHeader fdt count block strings).words ++
                reservations fdt count head) =
            slice (fdt.header.offMemRsvmap + 16 * index + 8) 8 head := by
        rw [Nat.add_assoc, slice, ← List.drop_drop,
          List.drop_left' wordsLength]
        have inside : 16 * index + 8 + 8 ≤ 16 * (count + 1) := by
          omega
        rw [Nat.add_assoc, ← slice_slice inside head]
        rfl
      rw [reservedSize, reservedSize, moved]
    refine ⟨?_, ?_, rfl, ?_, rfl, probed.magic, probed.version,
      probed.compatible, bounded, ?_, ?_, ?_, ?_, ?_, ?_, ?_⟩
    · simp only [packed, List.nil_append, List.append_nil,
        List.append_assoc]
    · rw [List.length_append, wordsLength, reserved]
      rfl
    · rw [List.length_append, wordsLength, reserved]
      rfl
    · simp only [packedHeader]
      omega
    · simp only [Fdt.dataSize, packedHeader]
      exact Nat.le_refl _
    · rw [total]
      exact Nat.le_refl _
    · exact Nat.le_refl 40
    · rw [List.length_append, wordsLength, reserved]
      exact Nat.le_refl _
    · intro index within
      show reservedSize 40 index _ ≠ 0
      rw [entry (by omega)]
      exact layout.reserved index within
    · show reservedSize 40 count _ = 0
      rw [entry (Nat.le_refl count)]
      exact layout.terminated

end Packing

/-! ## Files that can be edited -/

/-- A blob of version 17 whose blocks are behind its reservations, in order. -/
def Editable (blob : Bytes) : Prop :=
  ∃ fdt count,
    readFdt blob = some fdt ∧ 17 ≤ fdt.header.version ∧
      fdt.numMemRsv = .ok count ∧
        ¬fdt.Misordered (16 * (count + 1)) fdt.header.sizeDtStruct

/-- The parts of a file that can be edited. -/
theorem exists_layout
    {blob : Bytes}
    {tree : DeviceTree}
    (holds : readBlob blob = some tree)
    (editable : Editable blob) :
    ∃ fdt count head block gap strings tail,
      readFdt blob = some fdt ∧
        Layout fdt count head block gap strings tail ∧
          readStructure strings block = some tree ∧
            fdt.header.totalsize ≤ blob.length := by
  obtain ⟨fdt, inMemory, buffer, sound, read⟩ := readBlob_eq_some holds
  obtain ⟨same, count, again, version, counted, ordered⟩ := editable
  cases inMemory.symm.trans again
  have probe := sound.roProbe
  obtain ⟨magic, -, compatible, small, inBuffer, structInside,
    stringsInside⟩ := sound.accepted
  rw [Fdt.Misordered, not_or, not_or, not_or] at ordered
  obtain ⟨start, reservedFirst, structFirst, -⟩ := ordered
  rw [Fdt.numMemRsv, probe] at counted
  dsimp only at counted
  rw [Fdt.memRsvLoop_eq_ok_iff] at counted
  obtain ⟨-, -, -, reserved, terminated⟩ := counted
  have entry {index : Nat} (within : index ≤ count) :
      reservedSize fdt.header.offMemRsvmap index
          (fdt.buffer.take fdt.header.offDtStruct) =
        reservedSize fdt.header.offMemRsvmap index fdt.buffer := by
    rw [reservedSize, reservedSize, slice_take (by omega)]
  have headLength :
      (fdt.buffer.take fdt.header.offDtStruct).length =
        fdt.header.offDtStruct := by
    rw [List.length_take]
    omega
  have blockLength := sound.length_block
  have stringsLength := sound.length_strings
  have gapLength :
      (slice (fdt.header.offDtStruct + fdt.header.sizeDtStruct)
          (fdt.header.offDtStrings -
            (fdt.header.offDtStruct + fdt.header.sizeDtStruct))
          fdt.buffer).length =
        fdt.header.offDtStrings -
          (fdt.header.offDtStruct + fdt.header.sizeDtStruct) := by
    rw [slice, List.length_take, List.length_drop]
    omega
  have parts :
      fdt.buffer =
        fdt.buffer.take fdt.header.offDtStruct ++ (fdt.block ++
          (slice (fdt.header.offDtStruct + fdt.header.sizeDtStruct)
              (fdt.header.offDtStrings -
                (fdt.header.offDtStruct + fdt.header.sizeDtStruct))
              fdt.buffer ++
            (fdt.strings ++ fdt.buffer.drop fdt.dataSize))) := by
    have last :
        fdt.buffer.drop fdt.header.offDtStrings =
          fdt.strings ++ fdt.buffer.drop fdt.dataSize := by
      rw [Fdt.strings, slice, Fdt.dataSize, ← List.drop_drop,
        List.take_append_drop]
    have middle :
        fdt.buffer.drop
            (fdt.header.offDtStruct + fdt.header.sizeDtStruct) =
          slice (fdt.header.offDtStruct + fdt.header.sizeDtStruct)
              (fdt.header.offDtStrings -
                (fdt.header.offDtStruct + fdt.header.sizeDtStruct))
              fdt.buffer ++
            fdt.buffer.drop fdt.header.offDtStrings := by
      have reach :
          fdt.header.offDtStrings =
            fdt.header.offDtStruct + fdt.header.sizeDtStruct +
              (fdt.header.offDtStrings -
                (fdt.header.offDtStruct + fdt.header.sizeDtStruct)) := by
        omega
      conv_rhs =>
        rw [slice]
        rhs
        rw [reach, ← List.drop_drop]
      rw [List.take_append_drop]
    have first :
        fdt.buffer.drop fdt.header.offDtStruct =
          fdt.block ++ fdt.buffer.drop
            (fdt.header.offDtStruct + fdt.header.sizeDtStruct) := by
      rw [Fdt.block, slice, ← List.drop_drop, List.take_append_drop]
    rw [← last, ← middle, ← first, List.take_append_drop]
  have words : ∀ word ∈ fdt.header.words, word < 4294967296 := by
    rw [readFdt, Option.map_eq_some_iff] at again
    obtain ⟨header, headerRead, rfl⟩ := again
    unfold readFdtHeader at headerRead
    split at headerRead
    case h_1 wordsRead =>
        simp only [Option.some.injEq] at headerRead
        subst headerRead
        intro word member
        have among : word ∈ unpackWords (blob.take 40) := by
          rw [wordsRead]
          simpa only [FdtHeader.words, if_pos version] using member
        exact lt_of_mem_unpackWords among
    case h_2 =>
        cases headerRead
  refine ⟨fdt, count, _, _, _, _, _, again, ⟨parts, headLength.symm,
    blockLength.symm, ?_, stringsLength.symm, magic, version, compatible,
    words, small, stringsInside, inBuffer, by omega, by omega, ?_, ?_⟩,
    read, by rw [← buffer]; exact inBuffer⟩
  · omega
  · intro index within
    rw [entry (by omega)]
    exact reserved index (Nat.zero_le _) within
  · rw [entry (Nat.le_refl _)]
    exact terminated

/-- A sound blob in memory is a file that holds a tree. -/
theorem readBlob_of_sound
    {blob : Bytes}
    {fdt : Fdt}
    (inMemory : readFdt blob = some fdt)
    (sound : fdt.Sound)
    {tree : DeviceTree}
    (read : readStructure fdt.strings fdt.block = some tree) :
    readBlob blob = some tree := by
  rw [readFdt, Option.map_eq_some_iff] at inMemory
  obtain ⟨header, found, rfl⟩ := inMemory
  rw [readBlob, found]
  simp only [Option.bind_eq_bind, Option.bind_some]
  rw [if_pos sound.accepted]
  exact read

/-! ## Calls on the bytes of a file -/

/-- Every argument is one cell. -/
theorem length_of_encodeValue
    {format : Format}
    {arguments : List Text}
    {value : Bytes}
    (encoded : encodeValue format arguments = some value) :
    value.length = 4 * arguments.length := by
  induction arguments generalizing value with
  | nil =>
      cases encoded
      rfl
  | cons argument rest inductionHypothesis =>
      simp only [encodeValue, List.mapM_cons, Option.bind_eq_bind,
        Option.map_eq_some_iff, Option.bind_eq_some_iff, Option.pure_def,
        Option.some.injEq] at encoded
      obtain ⟨_, ⟨cell, first, cells, later, rfl⟩, rfl⟩ := encoded
      have encodedRest : encodeValue format rest = some cells.flatten := by
        rw [encodeValue, later]
        rfl
      have behind := inductionHypothesis encodedRest
      have cellLength : cell.length = 4 := by
        simp only [encodeCell, Option.map_eq_some_iff] at first
        obtain ⟨number, -, rfl⟩ := first
        simp
      rw [List.flatten_cons, List.length_append, behind, cellLength,
        List.length_cons]
      omega

/--
A call whose path needs no alias, whose property is a plain name, and whose
words `getopt` leaves to `do_fdtput`.
-/
structure FdtputCall.Plain (call : FdtputCall) : Prop where
  absolute : IsAbsolute call.path
  isName : IsByteName call.property
  operands :
    ∀ word ∈ call.property :: call.arguments, IsOperand word

/-- What a call adds to a file at most. -/
def FdtputCall.growth (call : FdtputCall) : Nat :=
  12 + tagAlign (4 * call.arguments.length) + (call.property.length + 1)

/-- Without room behind it, the strings block is the end of a blob. -/
theorem Layout.isSuffix_strings
    {fdt : Fdt}
    {count : Nat}
    {head block gap strings : Bytes}
    (layout : Layout fdt count head block gap strings []) :
    strings <:+ fdt.buffer := by
  rw [layout.buffer, List.append_nil]
  exact (List.suffix_append gap strings).trans
    ((List.suffix_append block _).trans (List.suffix_append head _))

/-- The names of the properties of a file. -/
def nameBlock (blob : Bytes) : Option Bytes :=
  (readFdt blob).map Fdt.strings

/--
A call writes the names that were there, and maybe that of its property, at the
end of the file.
-/
def KeepsNames (call : FdtputCall) (blob written : Bytes) : Prop :=
  ∃ strings longer,
    nameBlock blob = some strings ∧ nameBlock written = some longer ∧
      (longer = strings ∨
          longer = strings ++ stringBytes call.property) ∧
        longer <:+ written

/-- A call on a file, and the file it leaves. -/
theorem fdtputFile_step
    {blob : Bytes}
    {tree : DeviceTree}
    (holds : readBlob blob = some tree)
    (editable : Editable blob)
    {call : FdtputCall}
    (isName : IsByteName call.property)
    (small : blob.length + call.growth < 2 ^ 31 - 1)
    (fresh : Nat → UInt8) :
    (call.run tree = none ∧ fdtputFile fresh call blob = none) ∨
    ∃ after written,
      call.run tree = some after ∧
        fdtputFile fresh call blob = some written ∧
          readBlob written = some after ∧ Editable written ∧
            written.length ≤ blob.length + call.growth ∧
              KeepsNames call blob written := by
  obtain ⟨fdt, count, head, block, gap, strings, tail, inMemory, layout,
    read, total⟩ := exists_layout holds editable
  have data := layout.dataSize
  have inside := layout.inside
  have start := layout.rsvStart
  have stop := layout.rsvEnd
  rw [fdtputFile, inMemory, Option.bind_some, FdtputCall.run]
  cases encoded : encodeValue call.format call.arguments with
  | none =>
      exact .inl ⟨rfl, rfl⟩
  | some value =>
      have length := length_of_encodeValue encoded
      rw [FdtputCall.growth, ← length] at small ⊢
      have room :
          fdt.header.totalsize +
              (12 + tagAlign value.length + (call.property.length + 1)) <
            2 ^ 31 - 1 := by
        omega
      have shortValue := le_tagAlign value.length
      simp only [Option.bind_some]
      rcases layout.storeKeyValue read isName
          (show value.length < 4294967296 by omega) room fresh call.path with
        ⟨missing, failed⟩ |
          ⟨address, written, found, stored, block', strings', tail',
            changed, readAfter, names, longer⟩
      · rw [missing, failed]
        exact .inl ⟨rfl, rfl⟩
      · obtain ⟨head', packed, packedLayout, size⟩ := changed.readFdt_pack
        refine .inr ⟨_, written.pack.file, by rw [found]; rfl,
          by rw [stored]; rfl, ?_, ?_, ?_, ?_⟩
        · refine readBlob_of_sound packed packedLayout.sound ?_
          rw [packedLayout.strings_eq, packedLayout.block_eq]
          exact readAfter
        · exact ⟨_, count, packed, packedLayout.version,
            packedLayout.numMemRsv,
            packedLayout.not_misordered (Nat.le_refl _)⟩
        · omega
        · refine ⟨strings, strings', ?_, ?_, names,
            packedLayout.isSuffix_strings⟩
          · rw [nameBlock, inMemory, Option.map_some, layout.strings_eq]
          · rw [nameBlock, packed, Option.map_some,
              packedLayout.strings_eq]

/--
Calls on a file, in order; the first failure ends the script.  `fresh` holds
the bytes each call finds in the memory it allocates.
-/
def runCallsFile (fresh : Nat → Nat → UInt8) :
    List FdtputCall → Bytes → Option Bytes
  | [], blob =>
      some blob
  | call :: rest, blob =>
      (fdtputFile (fresh 0) call blob).bind
        (runCallsFile (fun later => fresh (later + 1)) rest)

/-- A run of calls on a file, and the file it leaves. -/
theorem runCallsFile_run
    {calls : List FdtputCall}
    {blob : Bytes}
    {tree : DeviceTree}
    (holds : readBlob blob = some tree)
    (editable : Editable blob)
    (areNames : ∀ call ∈ calls, IsByteName call.property)
    (small :
      blob.length + (calls.map FdtputCall.growth).sum < 2 ^ 31 - 1)
    (fresh : Nat → Nat → UInt8) :
    (runCalls calls tree = none ∧ runCallsFile fresh calls blob = none) ∨
    ∃ after written,
      runCalls calls tree = some after ∧
        runCallsFile fresh calls blob = some written ∧
          readBlob written = some after ∧ Editable written ∧
            written.length ≤
              blob.length + (calls.map FdtputCall.growth).sum := by
  induction calls generalizing blob tree fresh with
  | nil =>
      exact .inr ⟨tree, blob, rfl, rfl, holds, editable, Nat.le_refl _⟩
  | cons call rest inductionHypothesis =>
      simp only [List.map_cons, List.sum_cons] at small ⊢
      rw [runCalls, runCallsFile]
      rcases fdtputFile_step holds editable
          (areNames call List.mem_cons_self) (by omega) (fresh 0) with
        ⟨failed, failedFile⟩ |
          ⟨middle, between, done, doneFile, holdsNext, editableNext,
            longer, -⟩
      · rw [failed, failedFile]
        exact .inl ⟨rfl, rfl⟩
      · rw [done, doneFile, Option.bind_some, Option.bind_some]
        rcases inductionHypothesis holdsNext editableNext
            (fun other member =>
              areNames other (List.mem_cons_of_mem call member))
            (by omega) (fun later => fresh (later + 1)) with
          failed | ⟨after, written, run, runFile, holdsLast, editableLast,
            longest⟩
        · exact .inl failed
        · exact .inr ⟨after, written, run, runFile, holdsLast, editableLast,
            by omega⟩

/-! ## Names -/

/-- The names take some bytes, and a pattern is not in them. -/
def NamesAvoid (pattern : Bytes) (size : Nat) (blob : Bytes) : Prop :=
  ∃ strings ∈ nameBlock blob,
    size ≤ strings.length ∧ ¬pattern <:+: strings

/-- So do the bytes at the end of a file. -/
def EndAvoids (pattern : Bytes) (size : Nat) (blob : Bytes) : Prop :=
  ∃ strings, strings <:+ blob ∧
    size ≤ strings.length ∧ ¬pattern <:+: strings

section Names

variable {pattern : Bytes} {last : UInt8} {size : Nat}

theorem KeepsNames.avoid
    {call : FdtputCall}
    {blob written : Bytes}
    (keeps : KeepsNames call blob written)
    (ends : pattern.getLast? = some last)
    (absent : last ∉ stringBytes call.property)
    (avoid : NamesAvoid pattern size blob) :
    NamesAvoid pattern size written ∧ EndAvoids pattern size written := by
  obtain ⟨strings, longer, before, after, names, isSuffix⟩ := keeps
  obtain ⟨there, found, long, missing⟩ := avoid
  cases before.symm.trans found
  have stays : size ≤ longer.length ∧ ¬pattern <:+: longer := by
    rcases names with rfl | rfl
    · exact ⟨long, missing⟩
    · rw [List.length_append, infix_append_iff_of_not_mem ends absent]
      exact ⟨Nat.le_add_right_of_le long, missing⟩
  exact ⟨⟨longer, after, stays⟩, ⟨longer, isSuffix, stays⟩⟩

/-- Calls on a file leave a pattern out of its names. -/
theorem runCallsFile_avoids
    {calls : List FdtputCall}
    {blob : Bytes}
    {tree : DeviceTree}
    (holds : readBlob blob = some tree)
    (editable : Editable blob)
    (areNames : ∀ call ∈ calls, IsByteName call.property)
    (small :
      blob.length + (calls.map FdtputCall.growth).sum < 2 ^ 31 - 1)
    {fresh : Nat → Nat → UInt8}
    {written : Bytes}
    (run : runCallsFile fresh calls blob = some written)
    (ends : pattern.getLast? = some last)
    (absent : ∀ call ∈ calls, last ∉ stringBytes call.property)
    (avoid : NamesAvoid pattern size blob) :
    NamesAvoid pattern size written ∧
      (calls ≠ [] → EndAvoids pattern size written) := by
  induction calls generalizing blob tree fresh with
  | nil =>
      cases run
      exact ⟨avoid, fun none => (none rfl).elim⟩
  | cons call rest inductionHypothesis =>
      simp only [List.map_cons, List.sum_cons] at small
      rw [runCallsFile, Option.bind_eq_some_iff] at run
      obtain ⟨between, first, later⟩ := run
      rcases fdtputFile_step holds editable
          (areNames call List.mem_cons_self) (by omega) (fresh 0) with
        ⟨-, failed⟩ |
          ⟨middle, other, -, done, holdsNext, editableNext, longer, keeps⟩
      · rw [failed] at first
        cases first
      · cases done.symm.trans first
        obtain ⟨avoidNext, endNext⟩ :=
          keeps.avoid ends (absent call List.mem_cons_self) avoid
        obtain ⟨avoidLast, endLast⟩ :=
          inductionHypothesis holdsNext editableNext
            (fun call member => areNames call (List.mem_cons_of_mem _ member))
            (by omega) later
            (fun call member => absent call (List.mem_cons_of_mem _ member))
            avoidNext
        refine ⟨avoidLast, fun _ => ?_⟩
        cases rest with
        | nil =>
            cases later
            exact endNext
        | cons next rest =>
            exact endLast (List.cons_ne_nil next rest)

end Names

/-! ## Blobs with one reservation -/

/-- The parts of a blob with an empty memory reservation block. -/
theorem exists_layout_assembleBlob
    {block strings : Bytes}
    (small : 56 + block.length + strings.length < 2 ^ 31 - 1) :
    ∃ fdt head,
      readFdt (assembleBlob block strings) = some fdt ∧
        Layout fdt 0 head block [] strings [] := by
  let header : FdtHeader :=
    ⟨fdtMagic, 56 + block.length + strings.length, 56, 56 + block.length,
      40, 17, 16, 0, strings.length, block.length⟩
  have bounded : ∀ word ∈ header.words, word < 4294967296 := by
    simp only [header, FdtHeader.words, fdtMagic, List.mem_cons,
      List.not_mem_nil, or_false, forall_eq_or_imp, forall_eq]
    omega
  have read :
      readFdt (assembleBlob block strings) =
        some ⟨header, assembleBlob block strings⟩ := by
    have found :=
      readFdtHeader_packWords bounded (Nat.le_refl 17)
        (List.replicate 16 0 ++ (block ++ strings))
    rw [readFdt, show readFdtHeader (assembleBlob block strings) =
      some header from found, Option.map_some]
  have wordsLength :
      (packWords (fdtHeaderWords block strings)).length = 40 := by
    rw [length_packWords]
    rfl
  have behindWords :
      (packWords (fdtHeaderWords block strings) ++
          List.replicate 16 0).drop 48 =
        List.replicate 8 0 := by
    rw [show (48 : Nat) = 40 + 8 from rfl, ← List.drop_drop,
      List.drop_left' wordsLength]
    rfl
  have layout :
      Layout ⟨header, assembleBlob block strings⟩ 0
        (packWords (fdtHeaderWords block strings) ++ List.replicate 16 0)
        block [] strings [] := by
    refine ⟨?_, ?_, rfl, ?_, rfl, rfl, Nat.le_refl 17, Nat.le_succ 16,
      bounded, small, Nat.le_refl _, ?_, Nat.le_refl 40, ?_, ?_, ?_⟩
    · simp only [assembleBlob, List.nil_append, List.append_nil,
        List.append_assoc]
    · rw [List.length_append, wordsLength, List.length_replicate]
    · rw [List.length_append, wordsLength, List.length_replicate]
      rfl
    · simp only [assembleBlob, List.length_append, wordsLength,
        List.length_replicate, header]
      omega
    · rw [List.length_append, wordsLength, List.length_replicate]
    · intro index within
      omega
    · rw [reservedSize, slice]
      show ofBigEndian (((packWords (fdtHeaderWords block strings) ++
        List.replicate 16 0).drop 48).take 8) = 0
      rw [behindWords]
      rfl
  exact ⟨_, _, read, layout⟩

/-- It can be edited. -/
theorem editable_assembleBlob
    {block strings : Bytes}
    (small : 56 + block.length + strings.length < 2 ^ 31 - 1) :
    Editable (assembleBlob block strings) := by
  obtain ⟨fdt, head, read, layout⟩ := exists_layout_assembleBlob small
  exact ⟨fdt, 0, read, layout.version, layout.numMemRsv,
    layout.not_misordered (Nat.le_refl _)⟩

theorem nameBlock_assembleBlob
    {block strings : Bytes}
    (small : 56 + block.length + strings.length < 2 ^ 31 - 1) :
    nameBlock (assembleBlob block strings) = some strings := by
  obtain ⟨fdt, head, read, layout⟩ := exists_layout_assembleBlob small
  rw [nameBlock, read, Option.map_some, layout.strings_eq]

/--
A script of `fdtput` calls fails on a file where it fails on the tree of the
file.  Where it does not, the file it leaves holds the tree it leaves, and
another script can go on from there.
-/
theorem runCallsFile_refines
    {calls : List FdtputCall}
    {blob : Bytes}
    {tree : DeviceTree}
    (holds : readBlob blob = some tree)
    (editable : Editable blob)
    (plain : ∀ call ∈ calls, call.Plain)
    (small :
      blob.length + (calls.map FdtputCall.growth).sum < 2 ^ 31 - 1)
    (fresh : Nat → Nat → UInt8) :
    (runCallsFile fresh calls blob).map readBlob =
        (runCalls calls tree).map some ∧
      ∀ written ∈ runCallsFile fresh calls blob,
        Editable written ∧
          written.length ≤
            blob.length + (calls.map FdtputCall.growth).sum := by
  rcases runCallsFile_run holds editable
      (fun call member => (plain call member).isName) small fresh with
    ⟨failed, failedFile⟩ |
      ⟨after, written, run, runFile, holdsAfter, editableAfter, longest⟩
  · rw [failed, failedFile]
    exact ⟨rfl, by simp⟩
  · rw [run, runFile, Option.map_some, Option.map_some, holdsAfter]
    refine ⟨rfl, ?_⟩
    rintro other found
    cases found
    exact ⟨editableAfter, longest⟩

theorem runCallsFile_refines_example :
    let tree : DeviceTree :=
      .node ⟨[], []⟩ [.node ⟨['a'], [⟨['b'], [0, 0, 0, 7]⟩]⟩ []]
    let after : DeviceTree :=
      .node ⟨[], []⟩ [
        .node ⟨['a'],
          [⟨['c'], [0, 0, 0, 9]⟩, ⟨['b'], [0, 0, 0, 1, 0, 0, 0, 2]⟩]⟩ []]
    (runCallsFile (fun call _ => UInt8.ofNat call)
        [⟨.u, "/a".toList, ['c'], ["9".toList]⟩,
          ⟨.x, "/a".toList, ['b'], ["1".toList, "2".toList]⟩]
        (writeBlob (stringBytes ['b']) (fun _ => 0) tree)).map readBlob =
      some (some after) := by
  intro tree after
  have holds :
      readBlob (writeBlob (stringBytes ['b']) (fun _ => 0) tree) =
        some tree :=
    readBlob_writeBlob (by decide +kernel) (by decide +kernel)
  have plain (property : Text) (format : Format) (arguments : List Text)
      (isName : IsByteName property)
      (operands : ∀ word ∈ property :: arguments, IsOperand word) :
      FdtputCall.Plain ⟨format, "/a".toList, property, arguments⟩ :=
    ⟨show IsAbsolute "/a".toList by decide, isName, operands⟩
  rw [(runCallsFile_refines holds
    (editable_assembleBlob (by decide +kernel)) ?_
    (by decide +kernel) _).1]
  · rfl
  · simp only [List.mem_cons, List.not_mem_nil, or_false]
    rintro call (rfl | rfl)
    · exact plain _ _ _ (by decide) (by decide)
    · exact plain _ _ _ (by decide) (by decide)

end OverclockBuilder
