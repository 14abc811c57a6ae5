import OverclockBuilder.FdtEdit

namespace OverclockBuilder

open RadixText WordText BytePacking ByteMemory LabelTree

/-!
# The layout of a blob in memory

A blob that can be edited is its memory reservations, the structure block and
the strings block in this order.  Every edit of a block moves what lies behind
it and keeps the layout.
-/

/-- The parts of a blob in memory, in order. -/
structure Layout
    (fdt : Fdt)
    (count : Nat)
    (head block gap strings tail : Bytes) : Prop where
  buffer : fdt.buffer = head ++ (block ++ (gap ++ (strings ++ tail)))
  offDtStruct : fdt.header.offDtStruct = head.length
  sizeDtStruct : fdt.header.sizeDtStruct = block.length
  offDtStrings :
    fdt.header.offDtStrings = head.length + block.length + gap.length
  sizeDtStrings : fdt.header.sizeDtStrings = strings.length
  magic : fdt.header.magic = fdtMagic
  version : 17 ≤ fdt.header.version
  compatible : fdt.header.lastCompVersion ≤ 17
  words : ∀ word ∈ fdt.header.words, word < 4294967296
  small : fdt.header.totalsize < 2 ^ 31 - 1
  inside : fdt.dataSize ≤ fdt.header.totalsize
  inBuffer : fdt.header.totalsize ≤ fdt.buffer.length
  rsvStart : 40 ≤ fdt.header.offMemRsvmap
  rsvEnd : fdt.header.offMemRsvmap + 16 * (count + 1) ≤ head.length
  reserved :
    ∀ index < count, reservedSize fdt.header.offMemRsvmap index head ≠ 0
  terminated : reservedSize fdt.header.offMemRsvmap count head = 0

namespace Layout

section Facts

variable {fdt : Fdt} {count : Nat} {head block gap strings tail : Bytes}

theorem dataSize (layout : Layout fdt count head block gap strings tail) :
    fdt.dataSize =
      head.length + block.length + gap.length + strings.length := by
  rw [Fdt.dataSize, layout.offDtStrings, layout.sizeDtStrings]

theorem sound (layout : Layout fdt count head block gap strings tail) :
    fdt.Sound := by
  have data := layout.dataSize
  have inside := layout.inside
  have version := layout.version
  have first := layout.offDtStruct
  have second := layout.sizeDtStruct
  refine ⟨layout.magic, by omega, layout.compatible, layout.small,
    layout.inBuffer, by omega, ?_⟩
  rw [Fdt.dataSize] at inside
  exact inside

theorem block_eq (layout : Layout fdt count head block gap strings tail) :
    fdt.block = block := by
  rw [Fdt.block, layout.offDtStruct, layout.sizeDtStruct, layout.buffer]
  exact slice_middle rfl rfl _

theorem strings_eq (layout : Layout fdt count head block gap strings tail) :
    fdt.strings = strings := by
  rw [Fdt.strings, layout.offDtStrings, layout.sizeDtStrings, layout.buffer,
    ← List.append_assoc, ← List.append_assoc]
  refine slice_middle ?_ rfl _
  simp only [List.length_append]

theorem not_misordered
    (layout : Layout fdt count head block gap strings tail)
    {size : Nat}
    (small : size ≤ 16 * (count + 1)) :
    ¬fdt.Misordered size fdt.header.sizeDtStruct := by
  have start := layout.rsvStart
  have stop := layout.rsvEnd
  have inside := layout.inside
  have first := layout.offDtStruct
  have second := layout.sizeDtStruct
  have third := layout.offDtStrings
  rw [Fdt.dataSize] at inside
  rw [Fdt.Misordered]
  omega

/-- An entry of the memory reservations is in front of the blocks. -/
theorem reservedSize_buffer
    (layout : Layout fdt count head block gap strings tail)
    {index : Nat}
    (within : index ≤ count) :
    reservedSize fdt.header.offMemRsvmap index fdt.buffer =
      reservedSize fdt.header.offMemRsvmap index head := by
  have stop := layout.rsvEnd
  rw [reservedSize, reservedSize, layout.buffer]
  have front :
      (head ++ (block ++ (gap ++ (strings ++ tail)))).take head.length =
        head.take head.length := by
    rw [List.take_left, List.take_length]
  rw [slice_congr front (by omega)]

end Facts

end Layout

namespace Fdt

/-- The loop over the reservations stops at the first empty one. -/
theorem memRsvLoop_eq_ok_iff
    {fdt : Fdt}
    {fuel index count : Nat} :
    fdt.memRsvLoop fuel index = .ok count ↔
      index ≤ count ∧ count < index + fuel ∧
        (∀ position, index ≤ position → position ≤ count →
          fdt.header.offMemRsvmap + 16 * position + 16 ≤
            fdt.header.totalsize) ∧
        (∀ position, index ≤ position → position < count →
          reservedSize fdt.header.offMemRsvmap position fdt.buffer ≠ 0) ∧
        reservedSize fdt.header.offMemRsvmap count fdt.buffer = 0 := by
  induction fuel generalizing index with
  | zero =>
      simp only [memRsvLoop, reduceCtorEq, false_iff]
      omega
  | succ fuel inductionHypothesis =>
      rw [memRsvLoop]
      by_cases outside :
          fdt.header.totalsize < fdt.header.offMemRsvmap + 16 * index + 16
      · rw [if_pos outside]
        simp only [reduceCtorEq, false_iff]
        rintro ⟨atLeast, -, room, -⟩
        have here := room index (Nat.le_refl _) atLeast
        omega
      · rw [if_neg outside]
        by_cases empty :
            reservedSize fdt.header.offMemRsvmap index fdt.buffer = 0
        · rw [if_pos empty]
          constructor
          · intro same
            cases same
            refine ⟨Nat.le_refl _, by omega, ?_, ?_, empty⟩
            · intro position first last
              rw [Nat.le_antisymm last first]
              omega
            · intro position first last
              omega
          · rintro ⟨atLeast, -, -, full, -⟩
            by_cases same : index = count
            · rw [same]
            · exact absurd empty (full index (Nat.le_refl _) (by omega))
        · rw [if_neg empty, inductionHypothesis]
          constructor
          · rintro ⟨atLeast, enough, room, full, last⟩
            refine ⟨by omega, by omega, ?_, ?_, last⟩
            · intro position first before
              by_cases here : position = index
              · subst here
                omega
              · exact room position (by omega) before
            · intro position first before
              by_cases here : position = index
              · subst here
                exact empty
              · exact full position (by omega) before
          · rintro ⟨atLeast, enough, room, full, last⟩
            have further : index ≠ count := by
              rintro rfl
              exact empty last
            refine ⟨by omega, by omega, ?_, ?_, last⟩
            · intro position first before
              exact room position (by omega) before
            · intro position first before
              exact full position (by omega) before

end Fdt

/-- The memory reservations of a layout are counted. -/
theorem Layout.numMemRsv
    {fdt : Fdt}
    {count : Nat}
    {head block gap strings tail : Bytes}
    (layout : Layout fdt count head block gap strings tail) :
    fdt.numMemRsv = .ok count := by
  have stop := layout.rsvEnd
  have data := layout.dataSize
  have inside := layout.inside
  have room : fdt.header.offMemRsvmap + 16 * (count + 1) ≤
      fdt.header.totalsize := by
    omega
  rw [Fdt.numMemRsv, layout.sound.roProbe]
  dsimp only
  rw [Fdt.memRsvLoop_eq_ok_iff]
  refine ⟨Nat.zero_le _, ?_, ?_, ?_, ?_⟩
  · omega
  · intro position _ within
    omega
  · intro position _ within
    rw [layout.reservedSize_buffer (by omega)]
    exact layout.reserved position within
  · rw [layout.reservedSize_buffer (Nat.le_refl _)]
    exact layout.terminated

/-! ## Edits keep the layout -/

namespace Fdt

section Splice

variable {fdt : Fdt} {front old rest tail : Bytes} {newlen : Nat}

/-- A splice with room opens a gap in place of some bytes. -/
theorem splice_of_room
    (buffer : fdt.buffer = front ++ (old ++ (rest ++ tail)))
    (data : fdt.dataSize = front.length + old.length + rest.length)
    (room : fdt.dataSize - old.length + newlen ≤ fdt.header.totalsize)
    (inBuffer : fdt.header.totalsize ≤ fdt.buffer.length) :
    ∃ filler tail',
      filler.length = newlen ∧
        fdt.splice front.length old.length newlen =
          .ok { fdt with buffer := front ++ (filler ++ (rest ++ tail')) } ∧
        newlen + rest.length + tail'.length =
          old.length + rest.length + tail.length := by
  have long := congrArg List.length buffer
  simp only [List.length_append] at long
  obtain ⟨filler, tail', size, moved, total⟩ :=
    memmove_gap front old rest tail
      (show newlen + rest.length ≤
          old.length + rest.length + tail.length by
        omega)
  refine ⟨filler, tail', size, ?_, total⟩
  have count :
      fdt.dataSize - (front.length + old.length) = rest.length := by
    omega
  rw [splice, if_neg (by omega), if_neg (by omega), if_neg (by omega), count,
    buffer, moved]

/-- A splice without room leaves the blob alone. -/
theorem splice_of_full
    (data : fdt.dataSize = front.length + old.length + rest.length)
    (full : fdt.header.totalsize < fdt.dataSize - old.length + newlen) :
    fdt.splice front.length old.length newlen = .error .noSpace := by
  rw [splice, if_neg (by omega), if_neg (by omega), if_pos full]

end Splice

end Fdt

namespace Layout

section Edits

variable {fdt : Fdt} {count : Nat} {head block gap strings tail : Bytes}

theorem rwProbe (layout : Layout fdt count head block gap strings tail) :
    fdt.rwProbe = .ok fdt.downgradeVersion := by
  have version := layout.version
  rw [Fdt.rwProbe, layout.sound.roProbe]
  dsimp only
  rw [if_neg (by omega), if_neg (layout.not_misordered (by omega))]

/-- The version is brought down to the last supported one. -/
theorem downgradeVersion
    (layout : Layout fdt count head block gap strings tail) :
    Layout fdt.downgradeVersion count head block gap strings tail ∧
      fdt.downgradeVersion.header.totalsize = fdt.header.totalsize := by
  rw [Fdt.downgradeVersion]
  split
  · refine ⟨⟨layout.buffer, layout.offDtStruct, layout.sizeDtStruct,
      layout.offDtStrings, layout.sizeDtStrings, layout.magic,
      Nat.le_refl _, layout.compatible, ?_, layout.small, layout.inside,
      layout.inBuffer, layout.rsvStart, layout.rsvEnd, layout.reserved,
      layout.terminated⟩, rfl⟩
    have words := layout.words
    simp only [FdtHeader.words, List.mem_cons, List.not_mem_nil, or_false,
      forall_eq_or_imp, forall_eq] at words ⊢
    omega
  · exact ⟨layout, rfl⟩

/-- Other blocks of other sizes, in a blob with room for them. -/
theorem replace
    (layout : Layout fdt count head block gap strings tail)
    {after : Fdt}
    {block' strings' tail' : Bytes}
    (buffer :
      after.buffer = head ++ (block' ++ (gap ++ (strings' ++ tail'))))
    (header :
      after.header =
        { fdt.header with
          offDtStrings := after.header.offDtStrings
          sizeDtStrings := after.header.sizeDtStrings
          sizeDtStruct := after.header.sizeDtStruct })
    (sizeDtStruct : after.header.sizeDtStruct = block'.length)
    (offDtStrings :
      after.header.offDtStrings =
        head.length + block'.length + gap.length)
    (sizeDtStrings : after.header.sizeDtStrings = strings'.length)
    (same : after.buffer.length = fdt.buffer.length)
    (room :
      head.length + block'.length + gap.length + strings'.length ≤
        fdt.header.totalsize) :
    Layout after count head block' gap strings' tail' := by
  have small := layout.small
  have words := layout.words
  simp only [FdtHeader.words, List.mem_cons, List.not_mem_nil, or_false,
    forall_eq_or_imp, forall_eq] at words
  rw [sizeDtStruct, offDtStrings, sizeDtStrings] at header
  refine ⟨buffer, ?_, sizeDtStruct, offDtStrings, sizeDtStrings, ?_, ?_, ?_,
    ?_, ?_, ?_, ?_, ?_, ?_, ?_, ?_⟩
  · rw [header]
    exact layout.offDtStruct
  · rw [header]
    exact layout.magic
  · rw [header]
    exact layout.version
  · rw [header]
    exact layout.compatible
  · rw [header]
    simp only [FdtHeader.words, List.mem_cons, List.not_mem_nil, or_false,
      forall_eq_or_imp, forall_eq]
    omega
  · rw [header]
    exact small
  · rw [Fdt.dataSize, header]
    exact room
  · rw [same, header]
    exact layout.inBuffer
  · rw [header]
    exact layout.rsvStart
  · rw [header]
    exact layout.rsvEnd
  · rw [header]
    exact layout.reserved
  · rw [header]
    exact layout.terminated

/-- A splice of the structure block with room for it. -/
theorem spliceStruct
    {front old back : Bytes}
    (layout :
      Layout fdt count head (front ++ (old ++ back)) gap strings tail)
    {newlen : Nat}
    (room : fdt.dataSize - old.length + newlen ≤ fdt.header.totalsize) :
    ∃ filler tail' spliced,
      filler.length = newlen ∧
        fdt.spliceStruct (head.length + front.length) old.length newlen =
          .ok spliced ∧
        Layout spliced count head (front ++ (filler ++ back)) gap strings
          tail' ∧
        spliced.header.totalsize = fdt.header.totalsize := by
  have data := layout.dataSize
  have size := layout.sizeDtStruct
  have stringsPlace := layout.offDtStrings
  have long := congrArg List.length layout.buffer
  simp only [List.length_append] at data size stringsPlace long
  have buffer :
      fdt.buffer =
        (head ++ front) ++ (old ++ ((back ++ (gap ++ strings)) ++ tail)) := by
    rw [layout.buffer]
    simp only [List.append_assoc]
  obtain ⟨filler, tail', fillerSize, spliced, total⟩ :=
    fdt.splice_of_room buffer (by
        simp only [List.length_append]
        omega)
      room layout.inBuffer
  rw [List.length_append] at spliced
  simp only [List.length_append] at total
  refine ⟨filler, tail',
    ⟨{ fdt.header with
        sizeDtStruct := fdt.header.sizeDtStruct + newlen - old.length
        offDtStrings := fdt.header.offDtStrings + newlen - old.length },
      head ++ front ++ (filler ++ (back ++ (gap ++ strings) ++ tail'))⟩,
    fillerSize, ?_, layout.replace ?_ rfl ?_ ?_ ?_ ?_ ?_, rfl⟩
  · rw [Fdt.spliceStruct, spliced]
    rfl
  · simp only [List.append_assoc]
  · simp only [List.length_append]
    omega
  · simp only [List.length_append]
    omega
  · exact layout.sizeDtStrings
  · simp only [List.length_append]
    omega
  · simp only [List.length_append]
    omega

/-- A splice of the structure block without room for it. -/
theorem spliceStruct_full
    {front old back : Bytes}
    (layout :
      Layout fdt count head (front ++ (old ++ back)) gap strings tail)
    {newlen : Nat}
    (full : fdt.header.totalsize < fdt.dataSize - old.length + newlen) :
    fdt.spliceStruct (head.length + front.length) old.length newlen =
      .error .noSpace := by
  have size := layout.dataSize
  simp only [List.length_append] at size
  have data :
      fdt.dataSize =
        (head ++ front).length + old.length +
          (back ++ (gap ++ strings)).length := by
    simp only [List.length_append]
    omega
  have failed := fdt.splice_of_full data full
  rw [List.length_append] at failed
  rw [Fdt.spliceStruct, failed]
  rfl

/-- Bytes of the structure block are overwritten in place. -/
theorem storeBlock
    (layout : Layout fdt count head block gap strings tail)
    (front old back : Bytes)
    (place : Nat)
    (content : Bytes)
    (split : block = front ++ (old ++ back))
    (same : content.length = old.length)
    (here : place = head.length + front.length) :
    Layout (fdt.store place content) count head
      (front ++ (content ++ back)) gap strings tail := by
  subst split
  subst here
  have size := layout.sizeDtStruct
  have stringsPlace := layout.offDtStrings
  have data := layout.dataSize
  have inside := layout.inside
  simp only [List.length_append] at size stringsPlace data
  have written :
      (fdt.store (head.length + front.length) content).buffer =
        head ++ ((front ++ (content ++ back)) ++
          (gap ++ (strings ++ tail))) := by
    have atFront : (head ++ front).length = head.length + front.length :=
      List.length_append
    have replaced :=
      overwrite_append atFront same (back ++ (gap ++ (strings ++ tail)))
    simp only [Fdt.store, layout.buffer]
    simp only [List.append_assoc] at replaced ⊢
    exact replaced
  refine layout.replace written rfl ?_ ?_ layout.sizeDtStrings ?_ ?_
  · simp only [List.length_append, same]
    exact size
  · simp only [List.length_append, same]
    exact stringsPlace
  · rw [written, layout.buffer]
    simp only [List.length_append, same]
  · simp only [List.length_append, same]
    omega

/-- A name that is found in a strings block is read there. -/
theorem findString_eq_some
    {strtab : Bytes}
    {name : Text}
    (isName : IsByteName name)
    {place : Nat}
    (found : findString strtab name = some place) :
    getString strtab place = some name ∧ place < strtab.length := by
  have inside := List.mem_of_find?_eq_some found
  have holds := List.find?_some found
  have same : slice place (name.length + 1) strtab = stringBytes name :=
    of_decide_eq_true holds
  rw [List.mem_range] at inside
  refine ⟨?_, by omega⟩
  rw [slice] at same
  rw [getString,
    ← List.take_append_drop (name.length + 1) (strtab.drop place), same,
    readString_stringBytes isName]

/-- The name of a new property goes behind the strings that are there. -/
theorem findAddString_new
    (layout : Layout fdt count head block gap strings tail)
    {name : Text}
    (missing : findString strings name = none)
    (room : fdt.dataSize + (name.length + 1) ≤ fdt.header.totalsize) :
    ∃ named tail',
      fdt.findAddString name = .ok (named, strings.length, true) ∧
        Layout named count head block gap (strings ++ stringBytes name)
          tail' ∧
        Layout (named.delLastString name) count head block gap strings
          (stringBytes name ++ tail') ∧
        named.header.totalsize = fdt.header.totalsize := by
  have data := layout.dataSize
  have buffer :
      fdt.buffer =
        (head ++ (block ++ (gap ++ strings))) ++ ([] ++ ([] ++ tail)) := by
    rw [layout.buffer]
    simp only [List.append_assoc, List.nil_append]
  have roomBehind :
      fdt.dataSize - ([] : Bytes).length + (name.length + 1) ≤
        fdt.header.totalsize := by
    simpa using room
  obtain ⟨filler, tail', fillerSize, spliced, total⟩ :=
    fdt.splice_of_room buffer (by
        simp only [List.length_append, List.length_nil]
        omega)
      roomBehind layout.inBuffer
  have place :
      (head ++ (block ++ (gap ++ strings))).length = fdt.dataSize := by
    simp only [List.length_append]
    omega
  have long := congrArg List.length layout.buffer
  have inBuffer := layout.inBuffer
  simp only [List.length_append] at long
  simp only [List.length_nil] at total
  rw [place, List.length_nil] at spliced
  have written :
      overwrite fdt.dataSize (stringBytes name)
          (head ++ (block ++ (gap ++ strings)) ++ (filler ++ ([] ++ tail'))) =
        head ++ (block ++ (gap ++ ((strings ++ stringBytes name) ++
          tail'))) := by
    rw [overwrite_append place (by rw [fillerSize, length_stringBytes])]
    simp only [List.append_assoc, List.nil_append]
  refine ⟨⟨{ fdt.header with
      sizeDtStrings := fdt.header.sizeDtStrings + (name.length + 1) },
    overwrite fdt.dataSize (stringBytes name)
      (head ++ (block ++ (gap ++ strings)) ++ (filler ++ ([] ++ tail')))⟩,
    tail', ?_, ?_, ?_, rfl⟩
  · rw [Fdt.findAddString, layout.strings_eq, missing]
    dsimp only
    rw [Fdt.spliceString, spliced, ← layout.sizeDtStrings]
    rfl
  · refine layout.replace written rfl layout.sizeDtStruct
      layout.offDtStrings ?_ ?_ ?_
    · simp only [List.length_append, length_stringBytes,
        layout.sizeDtStrings]
    · rw [written]
      simp only [List.length_append, length_stringBytes]
      omega
    · simp only [List.length_append, length_stringBytes]
      omega
  · refine layout.replace (written.trans ?_) rfl layout.sizeDtStruct
      layout.offDtStrings ?_ ?_ ?_
    · simp only [List.append_assoc]
    · simp only [Fdt.delLastString, Nat.add_sub_cancel]
      exact layout.sizeDtStrings
    · simp only [Fdt.delLastString]
      rw [written]
      simp only [List.length_append, length_stringBytes]
      omega
    · have inside := layout.inside
      omega

/-- There may be no room for the name of a new property. -/
theorem findAddString_full
    (layout : Layout fdt count head block gap strings tail)
    {name : Text}
    (missing : findString strings name = none)
    (full : fdt.header.totalsize < fdt.dataSize + (name.length + 1)) :
    fdt.findAddString name = .error .noSpace := by
  have size := layout.dataSize
  have data :
      fdt.dataSize =
        (head ++ (block ++ (gap ++ strings))).length + ([] : Bytes).length +
          ([] : Bytes).length := by
    simp only [List.length_append, List.length_nil]
    omega
  have fullBehind :
      fdt.header.totalsize <
        fdt.dataSize - ([] : Bytes).length + (name.length + 1) := by
    simpa using full
  have failed := fdt.splice_of_full data fullBehind
  have place :
      (head ++ (block ++ (gap ++ strings))).length = fdt.dataSize := by
    simp only [List.length_append]
    omega
  rw [place, List.length_nil] at failed
  rw [Fdt.findAddString, layout.strings_eq, missing]
  dsimp only
  rw [Fdt.spliceString, failed]
  rfl

end Edits

end Layout

end OverclockBuilder
