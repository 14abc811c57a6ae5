import OverclockBuilder.FdtTokens

namespace OverclockBuilder

open RadixText WordText BytePacking LabelTree

/-!
# Walking a blob in memory

The functions of `libfdt` that find nodes and properties by walking the tokens
of the structure block.  An offset is relative to the structure block.  The
builds of the tools leave `FDT_ASSUME_MASK` at zero, so every check is made.
-/

/-- The `FDT_ERR_` codes of the walked functions. -/
inductive FdtError where
  | notFound
  | noSpace
  | badOffset
  | badPath
  | badState
  | truncated
  | badMagic
  | badVersion
  | badStructure
  | badLayout
  | internal
  deriving Repr, DecidableEq

/--
A blob in memory.  The header fields stand in place of the first forty bytes
of the buffer, which only the setters of the header write to.
-/
structure Fdt where
  header : FdtHeader
  buffer : Bytes
  deriving Repr, DecidableEq

namespace Fdt

/-- The structure block. -/
def block (fdt : Fdt) : Bytes :=
  slice fdt.header.offDtStruct fdt.header.sizeDtStruct fdt.buffer

/-- The strings block. -/
def strings (fdt : Fdt) : Bytes :=
  slice fdt.header.offDtStrings fdt.header.sizeDtStrings fdt.buffer

/-- `fdt_ro_probe_`; the alignment of the buffer is left out. -/
def roProbe (fdt : Fdt) : Except FdtError Nat :=
  if fdt.header.magic = fdtMagic then
    if fdt.header.version < 2 then
      .error .badVersion
    else if 17 < fdt.header.lastCompVersion then
      .error .badVersion
    else if fdt.header.totalsize < 2 ^ 31 - 1 then
      .ok fdt.header.totalsize
    else
      .error .truncated
  else if fdt.header.magic = 4294967295 - fdtMagic then
    if fdt.header.sizeDtStruct = 0 then
      .error .badState
    else if fdt.header.totalsize < 2 ^ 31 - 1 then
      .ok fdt.header.totalsize
    else
      .error .truncated
  else
    .error .badMagic

/--
`fdt_offset_ptr`: what follows an offset that has some bytes behind it.

A total size below `INT_MAX` keeps the sums from wrapping around.
-/
def offsetPtr (fdt : Fdt) (offset length : Nat) : Option Bytes :=
  if fdt.header.totalsize < fdt.header.offDtStruct + offset + length then
    none
  else if fdt.header.sizeDtStruct < offset + length then
    none
  else
    some (fdt.buffer.drop (fdt.header.offDtStruct + offset))

/-- The loop of `fdt_next_tag` over the characters of a node name. -/
def skipName (fdt : Fdt) : Nat → Nat → Option Nat
  | 0, _ =>
      none
  | fuel + 1, offset =>
      (fdt.offsetPtr offset 1).bind fun pointer =>
        if pointer.head? = some 0 then
          some (offset + 1)
        else
          fdt.skipName fuel (offset + 1)

/-- The end of a token without its padding. -/
def tagEnd (fdt : Fdt) (tag offset : Nat) : Option Nat :=
  if tag = fdtBeginNode then
    fdt.skipName (fdt.header.sizeDtStruct + 1) (offset + 4)
  else if tag = fdtProp then
    (fdt.offsetPtr (offset + 4) 4).bind fun pointer =>
      let length := ofBigEndian (pointer.take 4)
      if length + (offset + 4) < 2 ^ 31 - 1 then
        some (offset + 12 + length)
      else
        none
  else if tag = fdtEnd ∨ tag = fdtEndNode ∨ tag = fdtNop then
    some (offset + 4)
  else
    none

/--
`fdt_next_tag`: a token and the offset behind it.

An error stands for `FDT_END` with that error in place of the offset.
-/
def nextTag (fdt : Fdt) (offset : Nat) : Except FdtError (Nat × Nat) :=
  match fdt.offsetPtr offset 4 with
  | none =>
      .error .truncated
  | some pointer =>
      let tag := ofBigEndian (pointer.take 4)
      match fdt.tagEnd tag offset with
      | none =>
          .error .badStructure
      | some stop =>
          if (fdt.offsetPtr offset (stop - offset)).isSome then
            .ok (tag, tagAlign stop)
          else
            .error .badStructure

/-- `fdt_check_node_offset_` -/
def checkNodeOffset (fdt : Fdt) (offset : Nat) : Except FdtError Nat :=
  if offset % 4 ≠ 0 then
    .error .badOffset
  else
    match fdt.nextTag offset with
    | .ok (tag, next) =>
        if tag ≠ fdtBeginNode then
          .error .badOffset
        else
          .ok next
    | .error _ =>
        .error .badOffset

/-- `fdt_check_prop_offset_` -/
def checkPropOffset (fdt : Fdt) (offset : Nat) : Except FdtError Nat :=
  if offset % 4 ≠ 0 then
    .error .badOffset
  else
    match fdt.nextTag offset with
    | .ok (tag, next) =>
        if tag ≠ fdtProp then
          .error .badOffset
        else
          .ok next
    | .error _ =>
        .error .badOffset

theorem skipName_gt
    {fdt : Fdt}
    {fuel offset stop : Nat}
    (skipped : fdt.skipName fuel offset = some stop) :
    offset < stop := by
  induction fuel generalizing offset with
  | zero =>
      cases skipped
  | succ fuel inductionHypothesis =>
      simp only [skipName, Option.bind_eq_some_iff] at skipped
      obtain ⟨pointer, -, next⟩ := skipped
      split at next
      · simp only [Option.some.injEq] at next
        omega
      · have later := inductionHypothesis next
        omega

theorem tagEnd_gt
    {fdt : Fdt}
    {tag offset stop : Nat}
    (ends : fdt.tagEnd tag offset = some stop) :
    offset < stop := by
  unfold tagEnd at ends
  split at ends
  · have later := skipName_gt ends
    omega
  · split at ends
    · simp only [Option.bind_eq_some_iff] at ends
      obtain ⟨pointer, -, next⟩ := ends
      split at next
      · simp only [Option.some.injEq] at next
        omega
      · cases next
    · split at ends
      · simp only [Option.some.injEq] at ends
        omega
      · cases ends

/-- A token lies in the structure block and has its end behind it. -/
theorem nextTag_gt
    {fdt : Fdt}
    {offset tag next : Nat}
    (walked : fdt.nextTag offset = .ok (tag, next)) :
    offset < next ∧ offset < fdt.header.sizeDtStruct := by
  unfold nextTag at walked
  split at walked
  · cases walked
  · rename_i pointer inside
    dsimp only at walked
    split at walked
    · cases walked
    · rename_i stop ends
      split at walked
      · simp only [Except.ok.injEq, Prod.mk.injEq] at walked
        have later := tagEnd_gt ends
        have aligned := le_tagAlign stop
        unfold offsetPtr at inside
        split at inside
        · cases inside
        · split at inside
          · cases inside
          · omega
      · cases walked

/-! ## Nodes -/

/-- The loop of `fdt_next_node`; a negative depth leaves the first node. -/
def nextNodeLoop (fdt : Fdt) (offset : Nat) (depth : Int) :
    Except FdtError Nat × Int :=
  match walked : fdt.nextTag offset with
  | .error error =>
      (.error error, depth)
  | .ok (tag, next) =>
      if tag = fdtBeginNode then
        (.ok offset, depth + 1)
      else if tag = fdtEnd then
        (.error .notFound, depth)
      else if tag = fdtEndNode then
        if depth - 1 < 0 then
          (.ok next, depth - 1)
        else
          have := nextTag_gt walked
          fdt.nextNodeLoop next (depth - 1)
      else
        have := nextTag_gt walked
        fdt.nextNodeLoop next depth
termination_by fdt.header.sizeDtStruct - offset

/-- `fdt_next_node`, with a depth, from a node. -/
def nextNode (fdt : Fdt) (offset : Nat) (depth : Int) :
    Except FdtError Nat × Int :=
  match fdt.checkNodeOffset offset with
  | .error error =>
      (.error error, depth)
  | .ok next =>
      fdt.nextNodeLoop next depth

/-- `fdt_get_name`; names of versions before 16 are left out. -/
def getName (fdt : Fdt) (offset : Nat) : Option Text :=
  match fdt.roProbe, fdt.checkNodeOffset offset with
  | .ok _, .ok _ =>
      readString (fdt.buffer.drop (fdt.header.offDtStruct + offset + 4))
  | _, _ =>
      none

/-- `fdt_nodename_eq_` -/
def nodenameEq (fdt : Fdt) (offset : Nat) (name : Text) : Bool :=
  match fdt.getName offset with
  | some stored =>
      OverclockBuilder.nodenameEq name ⟨stored, []⟩
  | none =>
      false

theorem checkNodeOffset_gt
    {fdt : Fdt}
    {offset next : Nat}
    (checked : fdt.checkNodeOffset offset = .ok next) :
    offset < next ∧ offset < fdt.header.sizeDtStruct := by
  unfold checkNodeOffset at checked
  split at checked
  · cases checked
  · split at checked
    · rename_i tag behind walked
      split at checked
      · cases checked
      · simp only [Except.ok.injEq] at checked
        subst checked
        exact nextTag_gt walked
    · cases checked

theorem nextNodeLoop_ge
    {fdt : Fdt}
    {offset next : Nat}
    {depth after : Int}
    (walked : fdt.nextNodeLoop offset depth = (.ok next, after)) :
    offset ≤ next := by
  fun_induction nextNodeLoop fdt offset depth with
  | case1 =>
      cases walked
  | case2 =>
      cases walked
      exact Nat.le_refl _
  | case3 =>
      cases walked
  | case4 offset depth behind above here =>
      cases walked
      exact (nextTag_gt here).1.le
  | case5 offset depth behind inside here _ _ _ inductionHypothesis =>
      exact (nextTag_gt here).1.le.trans (inductionHypothesis walked)
  | case6 offset depth tag behind here _ _ _ _ inductionHypothesis =>
      exact (nextTag_gt here).1.le.trans (inductionHypothesis walked)

theorem nextNode_gt
    {fdt : Fdt}
    {offset next : Nat}
    {depth after : Int}
    (walked : fdt.nextNode offset depth = (.ok next, after)) :
    offset < next ∧ offset < fdt.header.sizeDtStruct := by
  unfold nextNode at walked
  split at walked
  · cases walked
  · rename_i behind checked
    have first := checkNodeOffset_gt checked
    have later := nextNodeLoop_ge walked
    omega

/-- The loop of `fdt_subnode_offset_namelen`. -/
def subnodeLoop (fdt : Fdt) (name : Text) (offset : Nat) (depth : Int) :
    Except FdtError Nat :=
  if depth < 0 then
    .error .notFound
  else if depth = 1 ∧ fdt.nodenameEq offset name then
    .ok offset
  else
    match walked : fdt.nextNode offset depth with
    | (.ok next, deeper) =>
        have := nextNode_gt walked
        fdt.subnodeLoop name next deeper
    | (.error error, deeper) =>
        if deeper < 0 then .error .notFound else .error error
termination_by fdt.header.sizeDtStruct - offset

/-- `fdt_subnode_offset_namelen` -/
def subnodeOffset (fdt : Fdt) (offset : Nat) (name : Text) :
    Except FdtError Nat :=
  match fdt.roProbe with
  | .error error =>
      .error error
  | .ok _ =>
      fdt.subnodeLoop name offset 0

/-- The loop of `fdt_path_offset_namelen` over the parts of a path. -/
def pathLoop (fdt : Fdt) : List Text → Nat → Except FdtError Nat
  | [], offset =>
      .ok offset
  | name :: names, offset =>
      match fdt.subnodeOffset offset name with
      | .error error =>
          .error error
      | .ok child =>
          fdt.pathLoop names child

/--
`fdt_path_offset` of an absolute path.  Aliases are left out: any other path is
a bad one here.
-/
def pathOffset (fdt : Fdt) (path : Text) : Except FdtError Nat :=
  match fdt.roProbe with
  | .error error =>
      .error error
  | .ok _ =>
      if path.head? = some '/' then
        fdt.pathLoop (words (· == '/') path) 0
      else
        .error .badPath

/-- `fdt_first_subnode` -/
def firstSubnode (fdt : Fdt) (offset : Nat) : Except FdtError Nat :=
  match fdt.nextNode offset 0 with
  | (.ok next, depth) =>
      if depth ≠ 1 then .error .notFound else .ok next
  | (.error _, _) =>
      .error .notFound

/-- The loop of `fdt_next_subnode`. -/
def nextSubnodeLoop (fdt : Fdt) (offset : Nat) (depth : Int) :
    Except FdtError Nat :=
  match walked : fdt.nextNode offset depth with
  | (.ok next, after) =>
      if after < 1 then
        .error .notFound
      else if 1 < after then
        have := nextNode_gt walked
        fdt.nextSubnodeLoop next after
      else
        .ok next
  | (.error _, _) =>
      .error .notFound
termination_by fdt.header.sizeDtStruct - offset

/-- `fdt_next_subnode` -/
def nextSubnode (fdt : Fdt) (offset : Nat) : Except FdtError Nat :=
  fdt.nextSubnodeLoop offset 1

theorem nextSubnodeLoop_gt
    {fdt : Fdt}
    {offset next : Nat}
    {depth : Int}
    (walked : fdt.nextSubnodeLoop offset depth = .ok next) :
    offset < next ∧ offset < fdt.header.sizeDtStruct := by
  fun_induction nextSubnodeLoop fdt offset depth with
  | case1 =>
      cases walked
  | case2 offset depth behind after here _ _ _ inductionHypothesis =>
      have first := nextNode_gt here
      have later := inductionHypothesis walked
      omega
  | case3 offset depth behind after here =>
      cases walked
      exact nextNode_gt here
  | case4 =>
      cases walked

/-! ## Properties -/

/-- `nextprop_` -/
def nextprop (fdt : Fdt) (offset : Nat) : Except FdtError Nat :=
  match walked : fdt.nextTag offset with
  | .error error =>
      .error error
  | .ok (tag, next) =>
      if tag = fdtEnd then
        .error .badStructure
      else if tag = fdtProp then
        .ok offset
      else if tag = fdtNop then
        have := nextTag_gt walked
        fdt.nextprop next
      else
        .error .notFound
termination_by fdt.header.sizeDtStruct - offset

/-- `fdt_first_property_offset` -/
def firstPropertyOffset (fdt : Fdt) (offset : Nat) : Except FdtError Nat :=
  match fdt.checkNodeOffset offset with
  | .error error =>
      .error error
  | .ok next =>
      fdt.nextprop next

/-- `fdt_next_property_offset` -/
def nextPropertyOffset (fdt : Fdt) (offset : Nat) : Except FdtError Nat :=
  match fdt.checkPropOffset offset with
  | .error error =>
      .error error
  | .ok next =>
      fdt.nextprop next

theorem nextprop_ge
    {fdt : Fdt}
    {offset next : Nat}
    (walked : fdt.nextprop offset = .ok next) :
    offset ≤ next := by
  fun_induction nextprop fdt offset with
  | case1 =>
      cases walked
  | case2 =>
      cases walked
  | case3 =>
      cases walked
      exact Nat.le_refl _
  | case4 offset behind here _ _ _ inductionHypothesis =>
      exact (nextTag_gt here).1.le.trans (inductionHypothesis walked)
  | case5 =>
      cases walked

theorem nextPropertyOffset_gt
    {fdt : Fdt}
    {offset next : Nat}
    (walked : fdt.nextPropertyOffset offset = .ok next) :
    offset < next ∧ offset < fdt.header.sizeDtStruct := by
  unfold nextPropertyOffset checkPropOffset at walked
  split at walked
  · cases walked
  · rename_i behind checked
    split at checked
    · cases checked
    · split at checked
      · rename_i tag next' here
        split at checked
        · cases checked
        · simp only [Except.ok.injEq] at checked
          subst checked
          have first := nextTag_gt here
          have later := nextprop_ge walked
          omega
      · cases checked

/-- `fdt_get_string`; the blobs of the sequential writer are left out. -/
def getString (fdt : Fdt) (stringOffset : Nat) : Option Text :=
  match fdt.roProbe with
  | .error _ =>
      none
  | .ok totalsize =>
      let absolute := stringOffset + fdt.header.offDtStrings
      if totalsize ≤ absolute ∨ 2 ^ 31 ≤ stringOffset then
        none
      else if 17 ≤ fdt.header.version then
        if fdt.header.sizeDtStrings ≤ stringOffset then
          none
        else
          readString
            (slice absolute
              (min (totalsize - absolute)
                (fdt.header.sizeDtStrings - stringOffset))
              fdt.buffer)
      else
        readString (slice absolute (totalsize - absolute) fdt.buffer)

/-- A word of the token at an offset, as `fdt_offset_ptr_` finds it. -/
def wordAt (fdt : Fdt) (offset index : Nat) : Nat :=
  ofBigEndian
    (slice (fdt.header.offDtStruct + offset + 4 * index) 4 fdt.buffer)

/-- The loop of `fdt_get_property_namelen_`, at the offset of a property. -/
def propertyLoop (fdt : Fdt) (name : Text) (offset : Nat) :
    Except FdtError Nat :=
  match fdt.checkPropOffset offset with
  | .error _ =>
      .error .internal
  | .ok _ =>
      if fdt.getString (fdt.wordAt offset 2) = some name then
        .ok offset
      else
        match walked : fdt.nextPropertyOffset offset with
        | .error error =>
            .error error
        | .ok next =>
            have := nextPropertyOffset_gt walked
            fdt.propertyLoop name next
termination_by fdt.header.sizeDtStruct - offset

/-- `fdt_get_property_namelen`: the offset of the first property of a name. -/
def getProperty (fdt : Fdt) (offset : Nat) (name : Text) :
    Except FdtError Nat :=
  match fdt.firstPropertyOffset offset with
  | .error error =>
      .error error
  | .ok first =>
      fdt.propertyLoop name first

/-- The value behind the header of a property. -/
def propertyData (fdt : Fdt) (offset : Nat) : Bytes :=
  slice (fdt.header.offDtStruct + offset + 12) (fdt.wordAt offset 1)
    fdt.buffer

/-- `fdt_getprop` -/
def getprop (fdt : Fdt) (offset : Nat) (name : Text) :
    Except FdtError Bytes :=
  (fdt.getProperty offset name).map fdt.propertyData

/-! ## Tokens at an offset -/

/-- A blob that `libfdt` reads, with both blocks inside it. -/
structure Sound (fdt : Fdt) : Prop where
  accepted : fdt.header.Accepted fdt.buffer

section Tokens

variable {fdt : Fdt}

theorem Sound.roProbe (sound : fdt.Sound) :
    fdt.roProbe = .ok fdt.header.totalsize := by
  obtain ⟨magic, version, compatible, small, -⟩ := sound.accepted
  rw [Fdt.roProbe, if_pos magic, if_neg (by omega), if_neg (by omega),
    if_pos small]

theorem Sound.length_block (sound : fdt.Sound) :
    fdt.block.length = fdt.header.sizeDtStruct := by
  obtain ⟨-, -, -, -, inBuffer, inside, -⟩ := sound.accepted
  rw [block, slice, List.length_take, List.length_drop]
  omega

theorem Sound.length_strings (sound : fdt.Sound) :
    fdt.strings.length = fdt.header.sizeDtStrings := by
  obtain ⟨-, -, -, -, inBuffer, -, inside⟩ := sound.accepted
  rw [Fdt.strings, slice, List.length_take, List.length_drop]
  omega

/-- The buffer from a place in the structure block on. -/
theorem drop_buffer_of_block
    {front bytes : Bytes}
    (split : fdt.block = front ++ bytes) :
    ∃ rest,
      fdt.buffer.drop (fdt.header.offDtStruct + front.length) =
        bytes ++ rest := by
  refine ⟨(fdt.buffer.drop fdt.header.offDtStruct).drop
    fdt.header.sizeDtStruct, ?_⟩
  have whole :
      fdt.buffer.drop fdt.header.offDtStruct =
        front ++ (bytes ++
          (fdt.buffer.drop fdt.header.offDtStruct).drop
            fdt.header.sizeDtStruct) := by
    rw [← List.append_assoc, ← split, block, slice,
      List.take_append_drop]
  calc
    fdt.buffer.drop (fdt.header.offDtStruct + front.length) =
        (fdt.buffer.drop fdt.header.offDtStruct).drop front.length :=
      List.drop_drop.symm
    _ = _ := by
      rw [whole, List.drop_left]
      rw [← whole]

/-- Bytes of the structure block are found at their offset. -/
theorem Sound.offsetPtr
    (sound : fdt.Sound)
    {front bytes : Bytes}
    (split : fdt.block = front ++ bytes)
    (length : Nat)
    (inside : length ≤ bytes.length) :
    ∃ rest, fdt.offsetPtr front.length length = some (bytes ++ rest) := by
  obtain ⟨rest, found⟩ := drop_buffer_of_block split
  have size := sound.length_block
  obtain ⟨-, -, -, -, -, within, -⟩ := sound.accepted
  rw [split, List.length_append] at size
  refine ⟨rest, ?_⟩
  rw [Fdt.offsetPtr, if_neg (by omega), if_neg (by omega), found]

/-- A word of the structure block is found at its offset. -/
theorem Sound.offsetPtr_word
    (sound : fdt.Sound)
    {front back : Bytes}
    {word : Nat}
    (small : word < 4294967296)
    (split : fdt.block = front ++ (bigEndian 4 word ++ back)) :
    ∃ pointer,
      fdt.offsetPtr front.length 4 = some pointer ∧
        ofBigEndian (pointer.take 4) = word := by
  obtain ⟨rest, found⟩ := sound.offsetPtr split 4 (by simp)
  refine ⟨_, found, ?_⟩
  rw [List.append_assoc, List.take_left' (length_bigEndian 4 word),
    ofBigEndian_bigEndian, Nat.mod_eq_of_lt (by simpa using small)]

/-- A token whose end is inside the block. -/
theorem Sound.nextTag
    (sound : fdt.Sound)
    {front back : Bytes}
    {tag stop : Nat}
    (small : tag < 4294967296)
    (split : fdt.block = front ++ (bigEndian 4 tag ++ back))
    (ends : fdt.tagEnd tag front.length = some stop)
    (inside : stop ≤ front.length + 4 + back.length) :
    fdt.nextTag front.length = .ok (tag, tagAlign stop) := by
  obtain ⟨pointer, found, isTag⟩ := sound.offsetPtr_word small split
  obtain ⟨rest, whole⟩ :=
    sound.offsetPtr split (stop - front.length) (by
      rw [List.length_append, length_bigEndian]
      omega)
  rw [Fdt.nextTag, found]
  dsimp only
  rw [isTag, ends]
  dsimp only
  rw [whole]
  rfl

/-- The loop over a name stops behind its NUL. -/
theorem Sound.skipName
    (sound : fdt.Sound)
    {name : Text}
    (isName : IsByteName name)
    {front back : Bytes}
    (split : fdt.block = front ++ (stringBytes name ++ back))
    {fuel : Nat}
    (enough : name.length < fuel) :
    fdt.skipName fuel front.length =
      some (front.length + name.length + 1) := by
  induction name generalizing front fuel with
  | nil =>
      obtain ⟨less, rfl⟩ :=
        Nat.exists_eq_add_of_le' (show 1 ≤ fuel from enough)
      obtain ⟨rest, found⟩ := sound.offsetPtr split 1 (by
        rw [List.length_append, length_stringBytes]
        omega)
      rw [Fdt.skipName, found, Option.bind_some]
      rfl
  | cons character name inductionHypothesis =>
      obtain ⟨less, rfl⟩ :=
        Nat.exists_eq_add_of_le' (show 1 ≤ fuel by omega)
      obtain ⟨rest, found⟩ := sound.offsetPtr split 1 (by
        rw [List.length_append, length_stringBytes]
        omega)
      obtain ⟨small, notNul⟩ := isName character List.mem_cons_self
      have nonzero : charByte character ≠ 0 := by
        intro zero
        apply notNul
        rw [← byteChar_charByte small, zero]
        rfl
      have later :
          fdt.skipName less (front ++ [charByte character]).length =
            some ((front ++ [charByte character]).length + name.length +
              1) := by
        refine inductionHypothesis
          (fun other member => isName other (List.mem_cons_of_mem _ member))
          ?_ (by simpa using enough)
        rw [split]
        simp [stringBytes]
      rw [List.length_append, List.length_singleton] at later
      rw [Fdt.skipName, found, Option.bind_some, if_neg, later]
      · simp only [List.length_cons, Option.some.injEq]
        omega
      · simpa [stringBytes] using nonzero

/-- A token of one word. -/
theorem Sound.nextTag_word
    (sound : fdt.Sound)
    {front back : Bytes}
    (aligned : front.length % 4 = 0)
    {tag : Nat}
    (plain : tag = fdtEnd ∨ tag = fdtEndNode ∨ tag = fdtNop)
    (split : fdt.block = front ++ (bigEndian 4 tag ++ back)) :
    fdt.nextTag front.length = .ok (tag, front.length + 4) := by
  have other :
      tag < 4294967296 ∧ tag ≠ fdtBeginNode ∧ tag ≠ fdtProp := by
    rcases plain with rfl | rfl | rfl <;> decide
  obtain ⟨small, notBegin, notProp⟩ := other
  have ends : fdt.tagEnd tag front.length = some (front.length + 4) := by
    rw [tagEnd, if_neg notBegin, if_neg notProp, if_pos plain]
  rw [sound.nextTag small split ends (by omega), tagAlign_add aligned]
  rfl

/-- The header of a node and its padding. -/
theorem Sound.nextTag_nodeHeader
    (sound : fdt.Sound)
    {front back padding : Bytes}
    (aligned : front.length % 4 = 0)
    {name : Text}
    (isName : IsByteName name)
    (fills : Fills (stringBytes name) padding)
    (split : fdt.block = front ++ (nodeHeader name padding ++ back)) :
    fdt.nextTag front.length =
      .ok (fdtBeginNode,
        front.length + (nodeHeader name padding).length) := by
  have long := sound.length_block
  rw [split] at long
  simp only [List.length_append, length_nodeHeader fills] at long
  have room := le_tagAlign (name.length + 1)
  have skipped :
      fdt.skipName (fdt.header.sizeDtStruct + 1)
          (front ++ bigEndian 4 fdtBeginNode).length =
        some ((front ++ bigEndian 4 fdtBeginNode).length + name.length +
          1) := by
    have behindTag :
        fdt.block =
          (front ++ bigEndian 4 fdtBeginNode) ++
            (stringBytes name ++ (padding ++ back)) := by
      rw [split]
      simp only [nodeHeader, List.append_assoc]
    exact sound.skipName isName behindTag (by omega)
  rw [List.length_append, length_bigEndian] at skipped
  have ends :
      fdt.tagEnd fdtBeginNode front.length =
        some (front.length + 4 + name.length + 1) := by
    rw [tagEnd, if_pos rfl, skipped]
  have word :
      fdt.block =
        front ++ (bigEndian 4 fdtBeginNode ++
          (stringBytes name ++ (padding ++ back))) := by
    rw [split]
    simp only [nodeHeader, List.append_assoc]
  rw [sound.nextTag (by decide) word ends (by
      simp only [List.length_append, length_stringBytes]
      omega),
    length_nodeHeader fills,
    show front.length + 4 + name.length + 1 =
        front.length + (4 + (name.length + 1)) by omega,
    tagAlign_add aligned, tagAlign_add (show 4 % 4 = 0 from rfl)]

/-- The token of a property and its padding. -/
theorem Sound.nextTag_propertyBytes
    (sound : fdt.Sound)
    {front back value padding : Bytes}
    (aligned : front.length % 4 = 0)
    {nameOffset : Nat}
    (fills : Fills value padding)
    (split :
      fdt.block =
        front ++ (propertyBytes nameOffset value padding ++ back)) :
    fdt.nextTag front.length =
      .ok (fdtProp,
        front.length + (propertyBytes nameOffset value padding).length) := by
  have long := sound.length_block
  obtain ⟨-, -, -, small, -, inside, -⟩ := sound.accepted
  rw [split] at long
  simp only [List.length_append, length_propertyBytes fills] at long
  have room := le_tagAlign value.length
  have word :
      fdt.block =
        front ++ (bigEndian 4 fdtProp ++
          (bigEndian 4 value.length ++
            (bigEndian 4 nameOffset ++ (value ++ (padding ++ back))))) := by
    rw [split]
    simp only [propertyBytes, List.append_assoc]
  obtain ⟨pointer, found, isLength⟩ :=
    sound.offsetPtr_word
      (show value.length < 4294967296 by omega)
      (word.trans (List.append_assoc _ _ _).symm)
  rw [List.length_append, length_bigEndian] at found
  have ends :
      fdt.tagEnd fdtProp front.length =
        some (front.length + 12 + value.length) := by
    rw [tagEnd, if_neg (by decide), if_pos rfl, found, Option.bind_some]
    dsimp only
    rw [isLength, if_pos (by omega)]
  rw [sound.nextTag (by decide) word ends (by
      simp only [List.length_append, length_bigEndian]
      omega),
    length_propertyBytes fills, Nat.add_assoc, tagAlign_add aligned,
    tagAlign_add (show 12 % 4 = 0 from rfl)]

end Tokens

/-! ## One round of the loops -/

section Rounds

variable {fdt : Fdt}

theorem nextNodeLoop_of_nextTag
    {offset tag next : Nat}
    (here : fdt.nextTag offset = .ok (tag, next))
    (depth : Int) :
    fdt.nextNodeLoop offset depth =
      if tag = fdtBeginNode then
        (.ok offset, depth + 1)
      else if tag = fdtEnd then
        (.error .notFound, depth)
      else if tag = fdtEndNode then
        if depth - 1 < 0 then
          (.ok next, depth - 1)
        else
          fdt.nextNodeLoop next (depth - 1)
      else
        fdt.nextNodeLoop next depth := by
  rw [nextNodeLoop]
  split
  · rename_i failed
    rw [here] at failed
    cases failed
  · rename_i same
    rw [here] at same
    cases same
    rfl

theorem subnodeLoop_of_other
    {name : Text}
    {offset : Nat}
    {depth : Int}
    (inside : 0 ≤ depth)
    (other : ¬(depth = 1 ∧ fdt.nodenameEq offset name)) :
    fdt.subnodeLoop name offset depth =
      match fdt.nextNode offset depth with
      | (.ok next, deeper) =>
          fdt.subnodeLoop name next deeper
      | (.error error, deeper) =>
          if deeper < 0 then .error .notFound else .error error := by
  rw [subnodeLoop, if_neg (by omega), if_neg other]
  split <;> rename_i found <;> simp only [found]

theorem nextprop_of_nextTag
    {offset tag next : Nat}
    (here : fdt.nextTag offset = .ok (tag, next)) :
    fdt.nextprop offset =
      if tag = fdtEnd then
        .error .badStructure
      else if tag = fdtProp then
        .ok offset
      else if tag = fdtNop then
        fdt.nextprop next
      else
        .error .notFound := by
  rw [nextprop]
  split
  · rename_i failed
    rw [here] at failed
    cases failed
  · rename_i same
    rw [here] at same
    cases same
    rfl

theorem propertyLoop_of_checked
    {offset next : Nat}
    (checked : fdt.checkPropOffset offset = .ok next)
    (name : Text) :
    fdt.propertyLoop name offset =
      if fdt.getString (fdt.wordAt offset 2) = some name then
        .ok offset
      else
        match fdt.nextprop next with
        | .error error =>
            .error error
        | .ok later =>
            fdt.propertyLoop name later := by
  have walked : fdt.nextPropertyOffset offset = fdt.nextprop next := by
    rw [nextPropertyOffset, checked]
  rw [propertyLoop, checked]
  dsimp only
  by_cases same : fdt.getString (fdt.wordAt offset 2) = some name
  · rw [if_pos same, if_pos same]
  · rw [if_neg same, if_neg same, ← walked]
    split <;> rename_i found <;> rw [found]

end Rounds

end Fdt

end OverclockBuilder
