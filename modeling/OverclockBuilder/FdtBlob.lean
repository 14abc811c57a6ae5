import OverclockBuilder.ByteText
import OverclockBuilder.DeviceTree

namespace OverclockBuilder

open RadixText WordText BytePacking LabelTree

/-!
# Flattened blobs

The bytes of a device tree, as `libfdt` walks them: a header of ten words, a
structure block of four-byte tokens, and a block of property names.  A blob that
is not well formed has no tree.  Blobs older than version 16, which keep full
paths as node names, are left out.
-/

/-- `FDT_MAGIC` -/
def fdtMagic : Nat :=
  0xd00dfeed

/-- `FDT_BEGIN_NODE` -/
def fdtBeginNode : Nat :=
  1

/-- `FDT_END_NODE` -/
def fdtEndNode : Nat :=
  2

/-- `FDT_PROP` -/
def fdtProp : Nat :=
  3

/-- `FDT_NOP` -/
def fdtNop : Nat :=
  4

/-- `FDT_END` -/
def fdtEnd : Nat :=
  9

/-- `FDT_TAGALIGN` -/
def tagAlign (offset : Nat) : Nat :=
  (offset + 3) / 4 * 4

/-! ## Reading -/

/-- The next word and what follows it. -/
def readWord (bytes : Bytes) : Option (Nat × Bytes) :=
  if 4 ≤ bytes.length then
    some (ofBigEndian (bytes.take 4), bytes.drop 4)
  else
    none

/-- The text in front of the next NUL. -/
def readString (bytes : Bytes) : Option Text :=
  let text := bytes.takeWhile (· ≠ 0)
  if text.length < bytes.length then
    some (text.map byteChar)
  else
    none

/-- `fdt_get_string` -/
def getString (strings : Bytes) (offset : Nat) : Option Text :=
  readString (strings.drop offset)

/-- A node name and what follows its padding. -/
def readName (bytes : Bytes) : Option (Text × Bytes) := do
  let name ← readString bytes
  some (name, bytes.drop (tagAlign (name.length + 1)))

/-- The length, the name and the value of a property. -/
def readProperty (strings bytes : Bytes) : Option (Property × Bytes) := do
  let (length, behindLength) ← readWord bytes
  let (nameOffset, data) ← readWord behindLength
  let name ← getString strings nameOffset
  if length ≤ data.length then
    some (⟨name, data.take length⟩, data.drop (tagAlign length))
  else
    none

/--
The properties and children of a node up to its `FDT_END_NODE`.

Properties stand in front of the children.
-/
def readBody (strings : Bytes) :
    Nat → Bytes → Option ((List Property × List DeviceTree) × Bytes)
  | 0, _ =>
      none
  | fuel + 1, bytes => do
      let (token, rest) ← readWord bytes
      if token = fdtBeginNode then
        let (name, inside) ← readName rest
        let ((properties, children), behind) ← readBody strings fuel inside
        let ((late, siblings), after) ← readBody strings fuel behind
        if late = [] then
          some (([], .node ⟨name, properties⟩ children :: siblings), after)
        else
          none
      else if token = fdtEndNode then
        some (([], []), rest)
      else if token = fdtProp then
        let (property, behind) ← readProperty strings rest
        let ((properties, children), after) ← readBody strings fuel behind
        some ((property :: properties, children), after)
      else if token = fdtNop then
        readBody strings fuel rest
      else
        none

/-- The structure block: one root node and `FDT_END`. -/
def readStructure (strings block : Bytes) : Option DeviceTree := do
  let (token, rest) ← readWord block
  let (name, inside) ← readName rest
  let ((properties, children), behind) ←
    readBody strings block.length inside
  let (last, _) ← readWord behind
  if token = fdtBeginNode ∧ last = fdtEnd then
    some (.node ⟨name, properties⟩ children)
  else
    none

/-- The fields of `struct fdt_header`. -/
structure FdtHeader where
  magic : Nat
  totalsize : Nat
  offDtStruct : Nat
  offDtStrings : Nat
  offMemRsvmap : Nat
  version : Nat
  lastCompVersion : Nat
  bootCpuidPhys : Nat
  sizeDtStrings : Nat
  sizeDtStruct : Nat
  deriving Repr, DecidableEq

/-- The header of a blob; the structure size is a field of version 17. -/
def readFdtHeader (blob : Bytes) : Option FdtHeader :=
  match unpackWords (blob.take 40) with
  | [magic, totalsize, offDtStruct, offDtStrings, offMemRsvmap, version,
      lastCompVersion, bootCpuidPhys, sizeDtStrings, sizeDtStruct] =>
      some ⟨magic, totalsize, offDtStruct, offDtStrings, offMemRsvmap,
        version, lastCompVersion, bootCpuidPhys, sizeDtStrings,
        if 17 ≤ version then sizeDtStruct else totalsize - offDtStruct⟩
  | _ =>
      none

/-- `fdt_ro_probe_`, and both blocks inside the file. -/
def FdtHeader.Accepted (header : FdtHeader) (blob : Bytes) : Prop :=
  header.magic = fdtMagic ∧ 16 ≤ header.version ∧
    header.lastCompVersion ≤ 17 ∧ header.totalsize < 2 ^ 31 - 1 ∧
      header.totalsize ≤ blob.length ∧
        header.offDtStruct + header.sizeDtStruct ≤ header.totalsize ∧
          header.offDtStrings + header.sizeDtStrings ≤ header.totalsize

instance (header : FdtHeader) (blob : Bytes) :
    Decidable (header.Accepted blob) :=
  inferInstanceAs (Decidable (_ ∧ _))

/-- The tree of a blob. -/
def readBlob (blob : Bytes) : Option DeviceTree := do
  let header ← readFdtHeader blob
  if header.Accepted blob then
    readStructure
      ((blob.drop header.offDtStrings).take header.sizeDtStrings)
      ((blob.drop header.offDtStruct).take header.sizeDtStruct)
  else
    none

/-! ## Writing -/

/-- A string and its NUL. -/
def stringBytes (text : Text) : Bytes :=
  text.map charByte ++ [0]

/-- Zeros up to the next token. -/
def padTag (content : Bytes) : Bytes :=
  content ++ List.replicate (tagAlign content.length - content.length) 0

/-- The tokens of a property. -/
def writeProperty (stringOffset : Text → Nat) (property : Property) : Bytes :=
  bigEndian 4 fdtProp ++ bigEndian 4 property.value.length ++
    bigEndian 4 (stringOffset property.name) ++ padTag property.value

mutual

/-- The tokens of a node. -/
def writeNode (stringOffset : Text → Nat) : DeviceTree → Bytes
  | .node node children =>
      bigEndian 4 fdtBeginNode ++ (padTag (stringBytes node.name) ++
        (node.properties.flatMap (writeProperty stringOffset) ++
          (writeNodes stringOffset children ++ bigEndian 4 fdtEndNode)))

/-- The tokens of some siblings. -/
def writeNodes (stringOffset : Text → Nat) : List DeviceTree → Bytes
  | [] =>
      []
  | child :: rest =>
      writeNode stringOffset child ++ writeNodes stringOffset rest

end

/-- The header words of a version 17 blob. -/
def fdtHeaderWords (block strings : Bytes) : List Nat :=
  [fdtMagic, 56 + block.length + strings.length, 56, 56 + block.length, 40,
    17, 16, 0, strings.length, block.length]

/-- A blob with an empty memory reservation block. -/
def assembleBlob (block strings : Bytes) : Bytes :=
  packWords (fdtHeaderWords block strings) ++
    (List.replicate 16 0 ++ (block ++ strings))

/-- The blob of a tree. -/
def writeBlob
    (strings : Bytes)
    (stringOffset : Text → Nat)
    (tree : DeviceTree) :
    Bytes :=
  assembleBlob (writeNode stringOffset tree ++ bigEndian 4 fdtEnd) strings

/-! ## Reading what was written -/

/-- A name whose characters are bytes other than NUL. -/
def IsByteName (name : Text) : Prop :=
  ∀ character ∈ name, character.toNat < 256 ∧ character ≠ '\x00'

instance (name : Text) : Decidable (IsByteName name) :=
  List.decidableBAll
    (fun character : Char => character.toNat < 256 ∧ character ≠ '\x00')
    name

/-- A node whose property names are in the strings block. -/
def Storable
    (strings : Bytes)
    (stringOffset : Text → Nat)
    (node : FdtNode) :
    Prop :=
  IsByteName node.name ∧
    ∀ property ∈ node.properties,
      property.value.length < 4294967296 ∧
        stringOffset property.name < 4294967296 ∧
          getString strings (stringOffset property.name) =
            some property.name

instance
    (strings : Bytes)
    (stringOffset : Text → Nat)
    (node : FdtNode) :
    Decidable (Storable strings stringOffset node) :=
  inferInstanceAs
    (Decidable (_ ∧ ∀ property ∈ node.properties, _ ∧ _ ∧ _))

theorem readWord_bigEndian
    {word : Nat}
    (small : word < 4294967296)
    (rest : Bytes) :
    readWord (bigEndian 4 word ++ rest) = some (word, rest) := by
  rw [readWord, if_pos (by simp),
    List.take_left' (length_bigEndian 4 word),
    List.drop_left' (length_bigEndian 4 word), ofBigEndian_bigEndian,
    Nat.mod_eq_of_lt (by simpa using small)]

@[simp] theorem length_padTag (content : Bytes) :
    (padTag content).length = tagAlign content.length := by
  rw [padTag, List.length_append, List.length_replicate, tagAlign]
  omega

@[simp] theorem length_stringBytes (text : Text) :
    (stringBytes text).length = text.length + 1 := by
  simp [stringBytes]

/-- A stored string is read up to its NUL. -/
theorem readString_stringBytes
    {text : Text}
    (isName : IsByteName text)
    (rest : Bytes) :
    readString (stringBytes text ++ rest) = some text := by
  have nonzero : ∀ byte ∈ text.map charByte, byte ≠ 0 := by
    intro byte member zero
    obtain ⟨character, inText, rfl⟩ := List.mem_map.mp member
    obtain ⟨small, notNul⟩ := isName character inText
    apply notNul
    rw [← byteChar_charByte small, zero]
    rfl
  have upToNul :
      (stringBytes text ++ rest).takeWhile (· ≠ 0) =
        text.map charByte := by
    rw [stringBytes, List.append_assoc, List.takeWhile_append_of_pos]
    · simp
    · simpa using nonzero
  rw [readString, upToNul]
  simp only [List.length_map, List.length_append, length_stringBytes]
  rw [if_pos (by omega), Option.some.injEq, List.map_map]
  calc
    text.map (byteChar ∘ charByte) = text.map id := by
      apply List.map_congr_left
      intro character member
      exact byteChar_charByte (isName character member).1
    _ = text := List.map_id text

/-- The padding of a string belongs to what follows it. -/
theorem readName_padTag
    {name : Text}
    (isName : IsByteName name)
    (rest : Bytes) :
    readName (padTag (stringBytes name) ++ rest) = some (name, rest) := by
  have stored :
      readString (padTag (stringBytes name) ++ rest) = some name := by
    rw [padTag, List.append_assoc]
    exact readString_stringBytes isName _
  rw [readName, stored]
  simp only [Option.bind_eq_bind, Option.bind_some, Option.some.injEq,
    Prod.mk.injEq, true_and]
  exact List.drop_left' (by simp)

section Tree

variable {strings : Bytes} {stringOffset : Text → Nat}

theorem readProperty_writeProperty
    {property : Property}
    (short : property.value.length < 4294967296)
    (near : stringOffset property.name < 4294967296)
    (found :
      getString strings (stringOffset property.name) =
        some property.name)
    (rest : Bytes) :
    ∃ tokens,
      writeProperty stringOffset property ++ rest =
          bigEndian 4 fdtProp ++ tokens ∧
        readProperty strings tokens = some (property, rest) := by
  refine ⟨bigEndian 4 property.value.length ++
    (bigEndian 4 (stringOffset property.name) ++
      (padTag property.value ++ rest)), ?_, ?_⟩
  · simp only [writeProperty, List.append_assoc]
  · have value :
        (padTag property.value ++ rest).take property.value.length =
          property.value := by
      rw [padTag, List.append_assoc, List.take_left]
    have behind :
        (padTag property.value ++ rest).drop
            (tagAlign property.value.length) =
          rest :=
      List.drop_left' (by simp)
    have room :
        property.value.length ≤ (padTag property.value ++ rest).length := by
      rw [padTag]
      simp only [List.length_append]
      omega
    rw [readProperty, readWord_bigEndian short]
    simp only [Option.bind_eq_bind, Option.bind_some,
      readWord_bigEndian near, found]
    rw [if_pos room, value, behind]

/-- Enough fuel reads a body from the front of some bytes. -/
def Reads
    (strings bytes : Bytes)
    (properties : List Property)
    (children : List DeviceTree)
    (after : Bytes) :
    Prop :=
  ∀ fuel, bytes.length ≤ fuel →
    readBody strings fuel bytes = some ((properties, children), after)

theorem reads_end (after : Bytes) :
    Reads strings (bigEndian 4 fdtEndNode ++ after) [] [] after := by
  intro fuel enough
  rw [List.length_append, length_bigEndian] at enough
  obtain ⟨rest, rfl⟩ := Nat.exists_eq_add_of_le' (show 1 ≤ fuel by omega)
  rw [readBody, readWord_bigEndian (by decide)]
  simp only [Option.bind_eq_bind, Option.bind_some]
  rw [if_neg (by decide), if_pos trivial]

/-- The tokens of some properties in front of a body. -/
theorem reads_properties
    {properties : List Property}
    (storable :
      ∀ property ∈ properties,
        property.value.length < 4294967296 ∧
          stringOffset property.name < 4294967296 ∧
            getString strings (stringOffset property.name) =
              some property.name)
    {bytes after : Bytes}
    {children : List DeviceTree}
    (behind : Reads strings bytes [] children after) :
    Reads strings
      (properties.flatMap (writeProperty stringOffset) ++ bytes)
      properties children after := by
  induction properties with
  | nil =>
      exact behind
  | cons property rest inductionHypothesis =>
      obtain ⟨short, near, found⟩ := storable property List.mem_cons_self
      have later := inductionHypothesis fun other member =>
        storable other (List.mem_cons_of_mem property member)
      obtain ⟨tokens, split, read⟩ :=
        readProperty_writeProperty short near found
          (rest.flatMap (writeProperty stringOffset) ++ bytes)
      have longer :
          (rest.flatMap (writeProperty stringOffset) ++ bytes).length <
            ((property :: rest).flatMap (writeProperty stringOffset) ++
              bytes).length := by
        simp only [List.flatMap_cons, List.length_append, writeProperty,
          length_bigEndian]
        omega
      intro fuel enough
      obtain ⟨less, rfl⟩ :=
        Nat.exists_eq_add_of_le' (show 1 ≤ fuel by omega)
      rw [List.flatMap_cons, List.append_assoc, split, readBody,
        readWord_bigEndian (by decide)]
      simp only [Option.bind_eq_bind, Option.bind_some]
      rw [if_neg (by decide), if_neg (by decide), if_pos trivial, read]
      simp only [Option.bind_some, later less (by omega)]

/-- The tokens of a node in front of the ones of its siblings. -/
theorem reads_node
    {node : FdtNode}
    {children siblings : List DeviceTree}
    {inside behind after : Bytes}
    (isName : IsByteName node.name)
    (body : Reads strings inside node.properties children behind)
    (later : Reads strings behind [] siblings after)
    (shorter : behind.length ≤ inside.length) :
    Reads strings
      (bigEndian 4 fdtBeginNode ++
        (padTag (stringBytes node.name) ++ inside))
      [] (.node node children :: siblings) after := by
  intro fuel enough
  simp only [List.length_append, length_bigEndian] at enough
  obtain ⟨less, rfl⟩ := Nat.exists_eq_add_of_le' (show 1 ≤ fuel by omega)
  rw [readBody, readWord_bigEndian (by decide)]
  simp only [Option.bind_eq_bind, Option.bind_some]
  rw [if_pos trivial, readName_padTag isName]
  simp only [Option.bind_some, body less (by omega),
    later less (by omega)]
  rw [if_pos trivial]

mutual

/-- A written node is read, whatever its siblings are. -/
theorem reads_writeNode
    (tree : DeviceTree)
    (storable :
      ∀ node ∈ OrderedTree.labels tree,
        Storable strings stringOffset node)
    {bytes after : Bytes}
    {siblings : List DeviceTree}
    (later : Reads strings bytes [] siblings after) :
    Reads strings (writeNode stringOffset tree ++ bytes) []
      (tree :: siblings) after := by
  cases tree with
  | node node children =>
      have here := storable node (by simp [OrderedTree.labels])
      have body :
          Reads strings
            (node.properties.flatMap (writeProperty stringOffset) ++
              (writeNodes stringOffset children ++
                (bigEndian 4 fdtEndNode ++ bytes)))
            node.properties children bytes := by
        refine reads_properties here.2 ?_
        refine reads_writeNodes children ?_ bytes
        intro child member
        exact storable child (by simp [OrderedTree.labels, member])
      have whole := reads_node here.1 body later (by
        simp only [List.length_append]
        omega)
      simpa only [writeNode, List.append_assoc] using whole

/-- Written siblings are read up to the end of their parent. -/
theorem reads_writeNodes
    (children : List DeviceTree)
    (storable :
      ∀ node ∈ OrderedTree.forestLabels children,
        Storable strings stringOffset node)
    (after : Bytes) :
    Reads strings
      (writeNodes stringOffset children ++
        (bigEndian 4 fdtEndNode ++ after))
      [] children after := by
  cases children with
  | nil =>
      exact reads_end after
  | cons child rest =>
      rw [writeNodes, List.append_assoc]
      refine reads_writeNode child ?_ (reads_writeNodes rest ?_ after)
      · intro node member
        exact storable node (by simp [OrderedTree.forestLabels, member])
      · intro node member
        exact storable node (by simp [OrderedTree.forestLabels, member])

end

/-- A structure block of one tree is read. -/
theorem readStructure_writeNode
    {tree : DeviceTree}
    (storable :
      ∀ node ∈ OrderedTree.labels tree,
        Storable strings stringOffset node) :
    readStructure strings
        (writeNode stringOffset tree ++ bigEndian 4 fdtEnd) =
      some tree := by
  cases tree with
  | node node children =>
      have here := storable node (by simp [OrderedTree.labels])
      have body :=
        reads_properties here.2
          (reads_writeNodes children
            (fun child member =>
              storable child (by simp [OrderedTree.labels, member]))
            (bigEndian 4 fdtEnd))
      have block :
          writeNode stringOffset (.node node children) ++
              bigEndian 4 fdtEnd =
            bigEndian 4 fdtBeginNode ++
              (padTag (stringBytes node.name) ++
                (node.properties.flatMap (writeProperty stringOffset) ++
                  (writeNodes stringOffset children ++
                    (bigEndian 4 fdtEndNode ++ bigEndian 4 fdtEnd)))) := by
        simp only [writeNode, List.append_assoc]
      have last := readWord_bigEndian (show fdtEnd < 4294967296 by decide) []
      rw [List.append_nil] at last
      rw [readStructure, block, readWord_bigEndian (by decide)]
      simp only [Option.bind_eq_bind, Option.bind_some,
        readName_padTag here.1]
      rw [body _ (by simp only [List.length_append]; omega)]
      simp only [Option.bind_some, last]
      rw [if_pos ⟨trivial, trivial⟩]

/-- Both blocks of an assembled blob are found. -/
theorem readBlob_assembleBlob
    {block strings : Bytes}
    (small : 56 + block.length + strings.length < 2 ^ 31 - 1) :
    readBlob (assembleBlob block strings) =
      readStructure strings block := by
  have bounded : ∀ word ∈ fdtHeaderWords block strings,
      word < 4294967296 := by
    intro word member
    simp only [fdtHeaderWords, List.mem_cons, List.not_mem_nil, or_false]
      at member
    rcases member with rfl | rfl | rfl | rfl | rfl | rfl | rfl | rfl |
      rfl | rfl <;>
      first
        | decide
        | omega
  have words :
      unpackWords ((assembleBlob block strings).take 40) =
        fdtHeaderWords block strings := by
    rw [assembleBlob, List.take_left' (by simp [fdtHeaderWords]),
      unpackWords_of_bounded bounded]
  have length :
      (assembleBlob block strings).length =
        56 + block.length + strings.length := by
    simp only [assembleBlob, List.length_append, length_packWords,
      List.length_replicate, fdtHeaderWords, List.length_cons,
      List.length_nil]
    omega
  have structureBlock :
      (assembleBlob block strings).drop 56 = block ++ strings := by
    rw [assembleBlob, ← List.append_assoc]
    exact List.drop_left' (by simp [fdtHeaderWords])
  have stringsBlock :
      (assembleBlob block strings).drop (56 + block.length) = strings := by
    rw [← List.drop_drop, structureBlock, List.drop_left]
  rw [readBlob, readFdtHeader, words]
  simp only [fdtHeaderWords, Option.bind_eq_bind, Option.bind_some,
    Nat.le_refl, ↓reduceIte]
  rw [if_pos, structureBlock, stringsBlock, List.take_left,
    List.take_length]
  rw [FdtHeader.Accepted, length]
  refine ⟨rfl, ?_, ?_, ?_, ?_, ?_, ?_⟩ <;>
    dsimp only <;>
    omega

/-- The blob of a tree reads back as the tree. -/
theorem readBlob_writeBlob
    {tree : DeviceTree}
    (storable :
      ∀ node ∈ OrderedTree.labels tree,
        Storable strings stringOffset node)
    (small :
      56 + (writeNode stringOffset tree ++ bigEndian 4 fdtEnd).length +
          strings.length <
        2 ^ 31 - 1) :
    readBlob (writeBlob strings stringOffset tree) = some tree := by
  rw [writeBlob, readBlob_assembleBlob small,
    readStructure_writeNode storable]

end Tree

end OverclockBuilder
