import OverclockBuilder.FdtLayout

namespace OverclockBuilder

open RadixText WordText BytePacking ByteMemory LabelTree

/-!
# Storing a property

`fdt_setprop` on the bytes sets the property in the tree.  When the blob is
full it is left as it was, and the room that `fdtput` makes is enough.
-/

namespace Layout

section Growth

variable {fdt : Fdt} {count : Nat} {head block gap strings tail : Bytes}

/-- The same blocks in a buffer with another end. -/
theorem resize
    (layout : Layout fdt count head block gap strings tail)
    {after : Fdt}
    {tail' : Bytes}
    (buffer :
      after.buffer = head ++ (block ++ (gap ++ (strings ++ tail'))))
    (header :
      after.header =
        { fdt.header with
          version := after.header.version
          totalsize := after.header.totalsize })
    (version : after.header.version = fdt.header.version ∨
      after.header.version = 17)
    (small : after.header.totalsize < 2 ^ 31 - 1)
    (larger : fdt.header.totalsize ≤ after.header.totalsize)
    (inBuffer : after.header.totalsize ≤ after.buffer.length) :
    Layout after count head block gap strings tail' := by
  have words := layout.words
  have latest := layout.version
  have inside := layout.inside
  simp only [FdtHeader.words, List.mem_cons, List.not_mem_nil, or_false,
    forall_eq_or_imp, forall_eq] at words
  refine ⟨buffer, ?_, ?_, ?_, ?_, ?_, by omega, ?_, ?_, small, ?_, inBuffer,
    ?_, ?_, ?_, ?_⟩
  · rw [header]
    exact layout.offDtStruct
  · rw [header]
    exact layout.sizeDtStruct
  · rw [header]
    exact layout.offDtStrings
  · rw [header]
    exact layout.sizeDtStrings
  · rw [header]
    exact layout.magic
  · rw [header]
    exact layout.compatible
  · rw [header]
    simp only [FdtHeader.words, List.mem_cons, List.not_mem_nil, or_false,
      forall_eq_or_imp, forall_eq]
    omega
  · have data : after.dataSize = fdt.dataSize := by
      rw [Fdt.dataSize, Fdt.dataSize, header]
    omega
  · rw [header]
    exact layout.rsvStart
  · rw [header]
    exact layout.rsvEnd
  · rw [header]
    exact layout.reserved
  · rw [header]
    exact layout.terminated

/-- `realloc_fdt` gives the blob the room it asks for. -/
theorem reallocFdt
    (layout : Layout fdt count head block gap strings tail)
    (fresh : Nat → UInt8)
    (delta : Nat)
    (small : fdt.header.totalsize + delta < 2 ^ 31 - 1) :
    ∃ tail',
      Layout (fdt.reallocFdt fresh delta) count head block gap strings
          tail' ∧
        (fdt.reallocFdt fresh delta).header.totalsize =
          fdt.header.totalsize + delta := by
  have data := layout.dataSize
  have inside := layout.inside
  have inBuffer := layout.inBuffer
  have version := layout.version
  let size := fdt.header.totalsize + delta
  let tail' :=
    (tail ++ (List.range size).map fresh).take (size - fdt.dataSize)
  have grown :
      Fdt.grow fresh size fdt.buffer =
        head ++ (block ++ (gap ++ (strings ++ tail'))) := by
    have blocks :
        (head ++ (block ++ (gap ++ strings))).length = fdt.dataSize := by
      simp only [List.length_append]
      omega
    have split :
        fdt.buffer ++ (List.range size).map fresh =
          (head ++ (block ++ (gap ++ strings))) ++
            (tail ++ (List.range size).map fresh) := by
      rw [layout.buffer]
      simp only [List.append_assoc]
    rw [Fdt.grow, split, List.take_append,
      List.take_of_length_le (by omega), blocks]
    simp only [List.append_assoc, tail']
  have length : (Fdt.grow fresh size fdt.buffer).length = size := by
    simp only [Fdt.grow, List.length_take, List.length_append,
      List.length_map, List.length_range]
    omega
  have longer :
      Layout ⟨fdt.header, Fdt.grow fresh size fdt.buffer⟩ count head block
        gap strings tail' := by
    refine layout.resize grown rfl (.inl rfl) layout.small (Nat.le_refl _)
      ?_
    simp only [length]
    omega
  have opened :
      fdt.reallocFdt fresh delta =
        ⟨{ fdt.header with version := 17, totalsize := size },
          Fdt.grow fresh size fdt.buffer⟩ := by
    have counted := longer.numMemRsv
    have ordered := longer.not_misordered (Nat.le_refl _)
    rw [Fdt.reallocFdt, Fdt.openInto, counted]
    dsimp only
    rw [if_neg]
    rintro (old | misordered | short)
    · omega
    · exact ordered misordered
    · omega
  refine ⟨tail', ?_, by rw [opened]⟩
  rw [opened]
  refine layout.resize grown rfl (.inr rfl) small (Nat.le_add_right _ _) ?_
  simp only [length]
  exact Nat.le_refl _

end Growth

/-! ## Setting a property -/

/--
A blob in which a property of a node was set: the blocks between the same
reservations and the same gap hold the changed tree.  The strings block may have
got the name of the property.
-/
def SetsProperty
    (count : Nat)
    (head block gap strings : Bytes)
    (root : DeviceTree)
    (address : List Nat)
    (key : Text)
    (value : Bytes)
    (written : Fdt) : Prop :=
  ∃ block' strings' tail',
    Layout written count head block' gap strings' tail' ∧
      readStructure strings' block' =
          some
            (OrderedTree.modifyAt (OverclockBuilder.setprop key value)
              address root) ∧
        (strings' = strings ∨ strings' = strings ++ stringBytes key) ∧
          block'.length + strings'.length ≤
            block.length + strings.length +
              (12 + tagAlign value.length + (key.length + 1))

section Setting

variable {fdt : Fdt} {count : Nat} {head gap strings tail : Bytes}
  {root : DeviceTree} {address : List Nat} {key : Text} {value : Bytes}

/-- The token of a property is resized and overwritten in place. -/
theorem resizeProperty
    {before after old oldPadding : Bytes}
    {nameOffset : Nat}
    (layout :
      Layout fdt count head
        (before ++ (propertyBytes nameOffset old oldPadding ++ after)) gap
        strings tail)
    (fills : Fills old oldPadding)
    {node : Nat}
    (found : fdt.getProperty node key = .ok before.length)
    (value : Bytes) :
    (fdt.dataSize - tagAlign old.length + tagAlign value.length ≤
        fdt.header.totalsize →
      ∃ resized padding tail',
        fdt.resizeProperty node key value.length =
            .ok (resized, before.length) ∧
          Fills value padding ∧
            Layout
              (resized.store (resized.header.offDtStruct + before.length +
                12) value)
              count head
              (before ++ (propertyBytes nameOffset value padding ++ after))
              gap strings tail') ∧
    (fdt.header.totalsize <
        fdt.dataSize - tagAlign old.length + tagAlign value.length →
      fdt.resizeProperty node key value.length = .error .noSpace) := by
  have lengthWord :=
    (layout.sound.propertyData fills layout.block_eq).1
  have filled : (old ++ oldPadding).length = tagAlign old.length := fills
  have atValue :
      before ++ (propertyBytes nameOffset old oldPadding ++ after) =
        (before ++ (bigEndian 4 fdtProp ++ (bigEndian 4 old.length ++
          bigEndian 4 nameOffset))) ++ ((old ++ oldPadding) ++ after) := by
    simp only [propertyBytes, List.append_assoc]
  have place (length : Nat) :
      (before ++ (bigEndian 4 fdtProp ++ (bigEndian 4 length ++
          bigEndian 4 nameOffset))).length =
        before.length + 12 := by
    simp only [List.length_append, length_bigEndian]
  have opened := layout
  rw [atValue] at opened
  rw [Fdt.resizeProperty, found]
  dsimp only
  rw [lengthWord, layout.offDtStruct, Nat.add_assoc head.length _ 12,
    ← place old.length, ← filled]
  refine ⟨?_, ?_⟩
  · intro room
    obtain ⟨filler, tail', spliced, size, opens, spread, same⟩ :=
      opened.spliceStruct room
    have long := le_tagAlign value.length
    have sized :=
      spread.storeBlock (before ++ bigEndian 4 fdtProp)
        (bigEndian 4 old.length)
        (bigEndian 4 nameOffset ++ (filler ++ after))
        (head.length + before.length + 4)
        (bigEndian 4 value.length)
        (by simp only [List.append_assoc]) (by simp)
        (by simp only [List.length_append, length_bigEndian, Nat.add_assoc])
    have stored :=
      sized.storeBlock
        (before ++ (bigEndian 4 fdtProp ++
          (bigEndian 4 value.length ++ bigEndian 4 nameOffset)))
        (filler.take value.length)
        (filler.drop value.length ++ after)
        (head.length + before.length + 12) value
        (by
          rw [← List.append_assoc (filler.take _), List.take_append_drop]
          simp only [List.append_assoc])
        (by
          rw [List.length_take]
          omega)
        (by rw [place, Nat.add_assoc])
    refine ⟨_, filler.drop value.length, tail', by rw [opens]; rfl, ?_, ?_⟩
    · rw [Fills, List.length_append, List.length_drop]
      omega
    · rw [sized.offDtStruct]
      simpa only [propertyBytes, List.append_assoc] using stored
  · intro full
    rw [opened.spliceStruct_full full]
    rfl

/-- The property that `fdt_get_property` finds in a node of the layout. -/
theorem getProperty
    {block : Bytes}
    (layout : Layout fdt count head block gap strings tail)
    {front : Bytes}
    {name : Text}
    {padding : Bytes}
    {inside : FdtTokens}
    {back : Bytes}
    (focus :
      NodeFocus strings block root address front name padding inside back)
    (key : Text) :
    ((inside.properties strings).find?
          (fun property => property.name = key) =
        none ∧
      fdt.getProperty front.length key = .error .notFound) ∨
    ∃ before nameOffset old oldPadding behind,
      FdtTokens.PropertyFocus strings inside key before nameOffset old
          oldPadding behind ∧
        fdt.getProperty front.length key =
          .ok (front ++ nodeHeader name padding ++ before).length := by
  have sound := layout.sound
  have here := focus
  rw [← layout.strings_eq, ← layout.block_eq] at here
  have found :=
    sound.propertyResume_tokens key here.formed here.aligned_inside
      here.bytes_inside
  rw [← sound.getProperty here, layout.strings_eq] at found
  rcases found with
    missing | ⟨before, nameOffset, old, oldPadding, behind, property, found⟩
  · exact .inl missing
  · refine .inr ⟨before, nameOffset, old, oldPadding, behind, property, ?_⟩
    rw [found]
    simp only [List.length_append]

/-- The block around a property of a node in focus. -/
theorem block_of_property
    {block front : Bytes}
    {name : Text}
    {padding : Bytes}
    {inside : FdtTokens}
    {back : Bytes}
    (focus :
      NodeFocus strings block root address front name padding inside back)
    {before old oldPadding behind : Bytes}
    {nameOffset : Nat}
    (property :
      FdtTokens.PropertyFocus strings inside key before nameOffset old
        oldPadding behind) :
    block =
      (front ++ nodeHeader name padding ++ before) ++
        (propertyBytes nameOffset old oldPadding ++ (behind ++ back)) := by
  rw [focus.bytes, property.bytes]
  simp only [List.append_assoc]

/-- Another value in the token of a property is the value in the tree. -/
theorem readStructure_of_property
    {block front : Bytes}
    {name : Text}
    {padding : Bytes}
    {inside : FdtTokens}
    {back : Bytes}
    (focus :
      NodeFocus strings block root address front name padding inside back)
    {before old oldPadding behind : Bytes}
    {nameOffset : Nat}
    (property :
      FdtTokens.PropertyFocus strings inside key before nameOffset old
        oldPadding behind)
    {valuePadding : Bytes}
    (short : value.length < 4294967296)
    (fills : Fills value valuePadding) :
    readStructure strings
        ((front ++ nodeHeader name padding ++ before) ++
          (propertyBytes nameOffset value valuePadding ++
            (behind ++ back))) =
      some
        (OrderedTree.modifyAt (OverclockBuilder.setprop key value) address
          root) := by
  obtain ⟨changed, formed, bytes, properties, children⟩ :=
    property.replace short fills
  have edited := focus.replace (Extends.refl strings) formed
  have present :
      (inside.properties strings).any
        fun property => property.name = key := by
    rw [List.any_eq_true]
    exact ⟨_, List.mem_of_find?_eq_some property.first, by simp⟩
  have relabelled :=
    OrderedTree.modifyAt_eq_replaceAt (OverclockBuilder.setprop key value)
      focus.atAddress
  rw [relabelled, OverclockBuilder.setprop, if_pos present, ← properties,
    ← children]
  rw [bytes, FdtTokens.tree] at edited
  simpa only [List.append_assoc] using edited

/-- Setting a property that the node has. -/
theorem setprop_existing
    {block : Bytes}
    (layout : Layout fdt count head block gap strings tail)
    {front : Bytes}
    {name : Text}
    {padding : Bytes}
    {inside : FdtTokens}
    {back : Bytes}
    (focus :
      NodeFocus strings block root address front name padding inside back)
    {before old oldPadding behind : Bytes}
    {nameOffset : Nat}
    (property :
      FdtTokens.PropertyFocus strings inside key before nameOffset old
        oldPadding behind)
    (found :
      fdt.downgradeVersion.getProperty front.length key =
        .ok (front ++ nodeHeader name padding ++ before).length)
    (short : value.length < 4294967296) :
    (fdt.dataSize - tagAlign old.length + tagAlign value.length ≤
        fdt.header.totalsize →
      ∃ written,
        fdt.setprop front.length key value = .ok written ∧
          SetsProperty count head block gap strings root address key value
            written) ∧
    (fdt.header.totalsize <
        fdt.dataSize - tagAlign old.length + tagAlign value.length →
      fdt.setprop front.length key value =
        .error (.noSpace, fdt.downgradeVersion)) := by
  obtain ⟨probed, same⟩ := layout.downgradeVersion
  have data : fdt.downgradeVersion.dataSize = fdt.dataSize := by
    rw [probed.dataSize, layout.dataSize]
  have split := block_of_property focus property
  have opened := probed
  rw [split] at opened
  have resized := opened.resizeProperty property.fills found value
  rw [data, same] at resized
  refine ⟨?_, ?_⟩
  · intro room
    obtain ⟨after, valuePadding, tail', done, fills, stored⟩ :=
      resized.1 room
    refine ⟨_, ?_, _, strings, tail', stored,
      readStructure_of_property focus property short fills, .inl rfl, ?_⟩
    · rw [Fdt.setprop, Fdt.setpropPlaceholder, layout.rwProbe]
      dsimp only
      rw [done]
      rfl
    · rw [split]
      simp only [List.length_append, length_propertyBytes property.fills,
        length_propertyBytes fills]
      omega
  · intro full
    rw [Fdt.setprop, Fdt.setpropPlaceholder, layout.rwProbe]
    dsimp only
    rw [resized.2 full]
    rfl

/-- A gap for a whole property token, and the bytes of its parts. -/
theorem split_filler
    {filler : Bytes}
    {length : Nat}
    (size : filler.length = 12 + tagAlign length) :
    ∃ first second third content padding : Bytes,
      filler =
          first ++ (second ++ (third ++ (content ++ padding))) ∧
        first.length = 4 ∧ second.length = 4 ∧ third.length = 4 ∧
          content.length = length ∧
            length + padding.length = tagAlign length := by
  have long := le_tagAlign length
  refine ⟨filler.take 4, (filler.drop 4).take 4,
    ((filler.drop 4).drop 4).take 4,
    (((filler.drop 4).drop 4).drop 4).take length,
    (((filler.drop 4).drop 4).drop 4).drop length, ?_, ?_, ?_, ?_, ?_, ?_⟩
  · simp only [List.take_append_drop]
  all_goals
    simp only [List.length_take, List.length_drop]
    omega

/-- A new property token is spliced in behind the header of its node. -/
theorem addToken
    {front back : Bytes}
    (layout : Layout fdt count head (front ++ back) gap strings tail)
    (nameOffset : Nat)
    (room :
      fdt.dataSize + (12 + tagAlign value.length) ≤ fdt.header.totalsize) :
    ∃ spliced padding tail',
      fdt.spliceStruct (head.length + front.length) 0
            (12 + tagAlign value.length) =
          .ok spliced ∧
        Fills value padding ∧
          Layout
            ((((spliced.store (head.length + front.length)
                (bigEndian 4 fdtProp)).store (head.length + front.length + 8)
                (bigEndian 4 nameOffset)).store
                (head.length + front.length + 4)
                (bigEndian 4 value.length)).store
              (head.length + front.length + 12) value)
            count head
            (front ++ (propertyBytes nameOffset value padding ++ back)) gap
            strings tail' := by
  have empty : Layout fdt count head (front ++ ([] ++ back)) gap strings
      tail := by
    rwa [List.nil_append]
  have opening :
      fdt.dataSize - ([] : Bytes).length + (12 + tagAlign value.length) ≤
        fdt.header.totalsize := by
    rw [List.length_nil]
    omega
  obtain ⟨filler, tail', spliced, size, opens, spread, -⟩ :=
    empty.spliceStruct opening
  obtain ⟨first, second, third, content, padding, rfl, firstSize,
    secondSize, thirdSize, contentSize, paddingSize⟩ := split_filler size
  refine ⟨spliced, padding, tail', opens, ?_, ?_⟩
  · rw [Fills, List.length_append]
    exact paddingSize
  · have tagged :=
      spread.storeBlock front first
        (second ++ (third ++ (content ++ padding)) ++ back)
        (head.length + front.length) (bigEndian 4 fdtProp)
        (by simp only [List.append_assoc])
        (by rw [length_bigEndian, firstSize]) rfl
    have named :=
      tagged.storeBlock (front ++ (bigEndian 4 fdtProp ++ second)) third
        (content ++ padding ++ back) (head.length + front.length + 8)
        (bigEndian 4 nameOffset)
        (by simp only [List.append_assoc])
        (by rw [length_bigEndian, thirdSize])
        (by
          simp only [List.length_append, length_bigEndian, secondSize]
          omega)
    have sized :=
      named.storeBlock (front ++ bigEndian 4 fdtProp) second
        (bigEndian 4 nameOffset ++ (content ++ padding ++ back))
        (head.length + front.length + 4) (bigEndian 4 value.length)
        (by simp only [List.append_assoc])
        (by rw [length_bigEndian, secondSize])
        (by simp only [List.length_append, length_bigEndian, Nat.add_assoc])
    have stored :=
      sized.storeBlock
        (front ++ (bigEndian 4 fdtProp ++
          (bigEndian 4 value.length ++ bigEndian 4 nameOffset)))
        content (padding ++ back) (head.length + front.length + 12) value
        (by simp only [List.append_assoc]) contentSize.symm
        (by
          simp only [List.length_append, length_bigEndian]
          omega)
    simpa only [propertyBytes, List.append_assoc] using stored

/-- A new property token is a new property in front of the others. -/
theorem readStructure_of_token
    {block front : Bytes}
    {name : Text}
    {padding : Bytes}
    {inside : FdtTokens}
    {back : Bytes}
    (focus :
      NodeFocus strings block root address front name padding inside back)
    (missing :
      (inside.properties strings).find?
          (fun property => property.name = key) =
        none)
    {longer : Bytes}
    (more : Extends strings longer)
    {nameOffset : Nat}
    (near : nameOffset < 4294967296)
    (named : getString longer nameOffset = some key)
    (short : value.length < 4294967296)
    {valuePadding : Bytes}
    (fills : Fills value valuePadding) :
    readStructure longer
        ((front ++ nodeHeader name padding) ++
          (propertyBytes nameOffset value valuePadding ++
            (inside.bytes ++ back))) =
      some
        (OrderedTree.modifyAt (OverclockBuilder.setprop key value) address
          root) := by
  obtain ⟨formed, properties, children⟩ := focus.formed.extend more
  have whole :
      (FdtTokens.property nameOffset value valuePadding inside).WellFormed
        longer :=
    ⟨short, near, by rw [named]; rfl, fills, formed⟩
  have edited := focus.replace more whole
  have absent :
      ¬(inside.properties strings).any
          fun property => property.name = key := by
    intro present
    obtain ⟨property, member, same⟩ := List.any_eq_true.mp present
    exact (List.find?_eq_none.mp missing) property member same
  have relabelled :=
    OrderedTree.modifyAt_eq_replaceAt (OverclockBuilder.setprop key value)
      focus.atAddress
  rw [relabelled, OverclockBuilder.setprop, if_neg absent]
  simp only [FdtTokens.bytes, FdtTokens.tree, FdtTokens.properties,
    FdtTokens.children, properties, children, named, Option.getD_some,
    List.append_assoc] at edited
  simpa only [List.append_assoc] using edited

/-- The strings block with the name of a new property. -/
structure Named
    (fdt : Fdt)
    (count : Nat)
    (head block gap strings : Bytes)
    (key : Text)
    (named : Fdt)
    (nameOffset : Nat)
    (allocated : Bool)
    (longer : Bytes) : Prop where
  found : fdt.findAddString key = .ok (named, nameOffset, allocated)
  layout : ∃ tail', Layout named count head block gap longer tail'
  rollback :
    ∃ tail',
      Layout (if allocated then named.delLastString key else named) count
        head block gap strings tail'
  totalsize : named.header.totalsize = fdt.header.totalsize
  extend : Extends strings longer
  names : longer = strings ∨ longer = strings ++ stringBytes key
  stored : getString longer nameOffset = some key
  near : nameOffset < 4294967296
  length : longer.length ≤ strings.length + (key.length + 1)

/-- The name of a property is found or added, or there is no room for it. -/
theorem findAddString
    {block : Bytes}
    (layout : Layout fdt count head block gap strings tail)
    (isName : IsByteName key) :
    (∃ named nameOffset allocated longer,
      Named fdt count head block gap strings key named nameOffset allocated
        longer) ∨
    (fdt.header.totalsize < fdt.dataSize + (key.length + 1) ∧
      fdt.findAddString key = .error .noSpace) := by
  have stringsSize := layout.sizeDtStrings
  have words := layout.words
  simp only [FdtHeader.words, List.mem_cons, List.not_mem_nil, or_false,
    forall_eq_or_imp, forall_eq] at words
  cases found : findString strings key with
  | some place =>
      obtain ⟨stored, inside⟩ := findString_eq_some isName found
      refine .inl ⟨fdt, place, false, strings, ?_, ⟨tail, layout⟩,
        ⟨tail, layout⟩, rfl, Extends.refl strings, .inl rfl, stored,
        by omega, Nat.le_add_right _ _⟩
      rw [Fdt.findAddString, layout.strings_eq, found]
  | none =>
      by_cases room :
          fdt.dataSize + (key.length + 1) ≤ fdt.header.totalsize
      · obtain ⟨named, tail', added, longer, rollback, same⟩ :=
          layout.findAddString_new found room
        refine .inl ⟨named, strings.length, true,
          strings ++ stringBytes key, added, ⟨tail', longer⟩,
          ⟨_, rollback⟩, same, extends_append strings _, .inr rfl, ?_,
          by omega, ?_⟩
        · have last := readString_stringBytes isName []
          rw [List.append_nil] at last
          rw [getString, List.drop_left, last]
        · rw [List.length_append, length_stringBytes]
      · exact .inr ⟨by omega, layout.findAddString_full found (by omega)⟩

/-- Setting a property that the node lacks. -/
theorem setprop_absent
    {block : Bytes}
    (layout : Layout fdt count head block gap strings tail)
    {front : Bytes}
    {name : Text}
    {padding : Bytes}
    {inside : FdtTokens}
    {back : Bytes}
    (focus :
      NodeFocus strings block root address front name padding inside back)
    (missing :
      (inside.properties strings).find?
          (fun property => property.name = key) =
        none)
    (notFound :
      fdt.downgradeVersion.getProperty front.length key =
        .error .notFound)
    (isName : IsByteName key)
    (short : value.length < 4294967296) :
    (∃ written,
      fdt.setprop front.length key value = .ok written ∧
        SetsProperty count head block gap strings root address key value
          written) ∨
    (fdt.header.totalsize <
        fdt.dataSize + (12 + tagAlign value.length + (key.length + 1)) ∧
      ∃ left tail',
        fdt.setprop front.length key value = .error (.noSpace, left) ∧
          Layout left count head block gap strings tail' ∧
            left.header.totalsize = fdt.header.totalsize) := by
  obtain ⟨probed, same⟩ := layout.downgradeVersion
  have data : fdt.downgradeVersion.dataSize = fdt.dataSize := by
    rw [probed.dataSize, layout.dataSize]
  have split := probed.block_eq.trans focus.bytes
  have checked :=
    Fdt.checkNodeOffset_of_nextTag focus.aligned
      (probed.sound.nextTag_nodeHeader focus.aligned focus.isName
        focus.fills split)
  have resized :
      fdt.downgradeVersion.resizeProperty front.length key value.length =
        .error .notFound := by
    rw [Fdt.resizeProperty, notFound]
  have added :
      fdt.setprop front.length key value =
        (fdt.downgradeVersion.addProperty front.length key
            value.length).map fun placed =>
          placed.1.store (placed.1.header.offDtStruct + placed.2 + 12)
            value := by
    rw [Fdt.setprop, Fdt.setpropPlaceholder, layout.rwProbe]
    dsimp only
    rw [resized]
  rw [Fdt.addProperty, checked] at added
  dsimp only at added
  rcases probed.findAddString isName with
    ⟨named, nameOffset, allocated, longer, step⟩ | ⟨full, failed⟩
  · obtain ⟨tail₁, names⟩ := step.layout
    have namedSame := step.totalsize
    have namedData := names.dataSize
    have length := step.length
    have before := layout.dataSize
    have atInside :
        block =
          (front ++ nodeHeader name padding) ++ (inside.bytes ++ back) :=
      focus.bytes_inside
    have opened := names
    rw [atInside] at opened
    rw [step.found] at added
    dsimp only at added
    rw [names.offDtStruct, ← List.length_append] at added
    by_cases room :
        named.dataSize + (12 + tagAlign value.length) ≤
          named.header.totalsize
    · obtain ⟨spliced, valuePadding, tail', opens, fills, stored⟩ :=
        opened.addToken nameOffset room
      rw [opens] at added
      refine .inl ⟨_, added, _, longer, tail', ?_,
        readStructure_of_token focus missing step.extend step.near
          step.stored short fills, step.names, ?_⟩
      · have place : spliced.header.offDtStruct = head.length :=
          stored.offDtStruct
        simpa only [Fdt.header_store, place] using stored
      · rw [atInside]
        simp only [List.length_append, length_propertyBytes fills]
        omega
    · have atGap :
          Layout named count head
            ((front ++ nodeHeader name padding) ++
              ([] ++ (inside.bytes ++ back))) gap longer tail₁ := by
        rwa [List.nil_append]
      have fullGap :
          named.header.totalsize <
            named.dataSize - ([] : Bytes).length +
              (12 + tagAlign value.length) := by
        rw [List.length_nil]
        omega
      have failed := atGap.spliceStruct_full fullGap
      rw [List.length_nil] at failed
      rw [failed] at added
      obtain ⟨tail₂, rollback⟩ := step.rollback
      refine .inr ⟨by omega, _, tail₂, added, rollback, ?_⟩
      split <;> exact namedSame.trans same
  · rw [failed] at added
    exact .inr ⟨by omega, _, tail, added, probed, same⟩

/-! ## Making room -/

section Stored

variable {block front : Bytes} {name : Text} {padding : Bytes}
  {inside : FdtTokens} {back : Bytes}

/-- A property that is there is stored, with more room if it needs it. -/
theorem storeKeyValue_existing
    (layout : Layout fdt count head block gap strings tail)
    (focus :
      NodeFocus strings block root address front name padding inside back)
    {old : Bytes}
    (present :
      (inside.properties strings).find?
          (fun property => property.name = key) =
        some ⟨key, old⟩)
    (short : value.length < 4294967296)
    (small :
      fdt.header.totalsize +
          (12 + tagAlign value.length + (key.length + 1)) <
        2 ^ 31 - 1)
    (fresh : Nat → UInt8)
    {path : Text}
    (walked : fdt.pathOffset path = .ok front.length) :
    ∃ written,
      fdt.storeKeyValue fresh path key value = some written ∧
        SetsProperty count head block gap strings root address key value
          written := by
  -- the search finds the same property before and after the blob grows
  have search {other : Fdt} {otherTail : Bytes}
      (there : Layout other count head block gap strings otherTail) :
      ∃ before nameOffset oldPadding behind,
        FdtTokens.PropertyFocus strings inside key before nameOffset old
            oldPadding behind ∧
          other.getProperty front.length key =
            .ok (front ++ nodeHeader name padding ++ before).length := by
    rcases there.getProperty focus key with
      ⟨missing, -⟩ |
        ⟨before, nameOffset, other, oldPadding, behind, property, found⟩
    · rw [missing] at present
      cases present
    · have same := property.first
      rw [present] at same
      cases same
      exact ⟨before, nameOffset, oldPadding, behind, property, found⟩
  obtain ⟨probed, same⟩ := layout.downgradeVersion
  have data := layout.dataSize
  have inside' := layout.inside
  obtain ⟨before, nameOffset, oldPadding, behind, property, found⟩ :=
    search probed
  have first := layout.setprop_existing focus property found short
  rw [Fdt.storeKeyValue, walked]
  dsimp only
  by_cases room :
      fdt.dataSize - tagAlign old.length + tagAlign value.length ≤
        fdt.header.totalsize
  · obtain ⟨written, done, sets⟩ := first.1 room
    rw [done]
    exact ⟨written, rfl, sets⟩
  · rw [first.2 (by omega)]
    dsimp only
    have fits : tagAlign old.length ≤ fdt.dataSize := by
      have split :=
        congrArg List.length (block_of_property focus property)
      simp only [List.length_append, length_propertyBytes property.fills]
        at split
      omega
    have longer : old.length < value.length := by
      by_contra shorter
      have aligned : tagAlign value.length ≤ tagAlign old.length := by
        rw [tagAlign, tagAlign]
        omega
      omega
    have lengthWord :
        fdt.downgradeVersion.wordAt
            (front ++ nodeHeader name padding ++ before).length 1 =
          old.length :=
      (probed.sound.propertyData property.fills
        (probed.block_eq.trans (block_of_property focus property))).1
    rw [Fdt.reallocProperty, found]
    dsimp only
    rw [lengthWord, if_pos longer]
    obtain ⟨tail', grown, size⟩ :=
      probed.reallocFdt fresh
        (tagAlign value.length - tagAlign old.length) (by omega)
    obtain ⟨again, -⟩ := grown.downgradeVersion
    have grownData := grown.dataSize
    obtain ⟨before', nameOffset', oldPadding', behind', property',
      found'⟩ := search again
    obtain ⟨written, done, sets⟩ :=
      (grown.setprop_existing focus property' found' short).1 (by omega)
    rw [done]
    exact ⟨written, rfl, sets⟩

/-- A new property is stored, with more room if it needs it. -/
theorem storeKeyValue_absent
    (layout : Layout fdt count head block gap strings tail)
    (focus :
      NodeFocus strings block root address front name padding inside back)
    (missing :
      (inside.properties strings).find?
          (fun property => property.name = key) =
        none)
    (isName : IsByteName key)
    (short : value.length < 4294967296)
    (small :
      fdt.header.totalsize +
          (12 + tagAlign value.length + (key.length + 1)) <
        2 ^ 31 - 1)
    (fresh : Nat → UInt8)
    {path : Text}
    (walked : fdt.pathOffset path = .ok front.length) :
    ∃ written,
      fdt.storeKeyValue fresh path key value = some written ∧
        SetsProperty count head block gap strings root address key value
          written := by
  have search {other : Fdt} {otherTail : Bytes}
      (there : Layout other count head block gap strings otherTail) :
      other.getProperty front.length key = .error .notFound := by
    rcases there.getProperty focus key with
      ⟨-, failed⟩ | ⟨before, nameOffset, old, _, _, property, -⟩
    · exact failed
    · have found := property.first
      rw [missing] at found
      cases found
  obtain ⟨probed, -⟩ := layout.downgradeVersion
  have data := layout.dataSize
  have inside' := layout.inside
  rw [Fdt.storeKeyValue, walked]
  dsimp only
  rcases layout.setprop_absent focus missing (search probed) isName short
    with ⟨written, done, sets⟩ | ⟨-, left, tail', failed, kept, same⟩
  · rw [done]
    exact ⟨written, rfl, sets⟩
  · rw [failed]
    dsimp only
    rw [Fdt.reallocProperty, search kept]
    dsimp only
    obtain ⟨tail₂, grown, size⟩ :=
      kept.reallocFdt fresh
        (12 + key.length + 1 + tagAlign value.length) (by omega)
    obtain ⟨again, -⟩ := grown.downgradeVersion
    have grownData := grown.dataSize
    rcases grown.setprop_absent focus missing (search again) isName short
      with ⟨written, done, sets⟩ | ⟨full, -⟩
    · rw [done]
      exact ⟨written, rfl, sets⟩
    · omega

end Stored

/-- `store_key_value` sets the property in the tree. -/
theorem storeKeyValue
    {block : Bytes}
    (layout : Layout fdt count head block gap strings tail)
    (read : readStructure strings block = some root)
    (isName : IsByteName key)
    (short : value.length < 4294967296)
    (small :
      fdt.header.totalsize +
          (12 + tagAlign value.length + (key.length + 1)) <
        2 ^ 31 - 1)
    (fresh : Nat → UInt8)
    (path : Text) :
    (pathOffset path root = none ∧
      fdt.storeKeyValue fresh path key value = none) ∨
    ∃ address written,
      pathOffset path root = some address ∧
        fdt.storeKeyValue fresh path key value = some written ∧
          SetsProperty count head block gap strings root address key value
            written := by
  have readThere : readStructure strings fdt.block = some root := by
    rw [layout.block_eq]
    exact read
  have walk := layout.sound.pathOffset readThere path
  rw [layout.block_eq] at walk
  rcases walk with
    ⟨missing, error, failed⟩ |
      ⟨address, front, name, padding, inside, back, found, focus, walked⟩
  · refine .inl ⟨missing, ?_⟩
    rw [Fdt.storeKeyValue, failed]
  · right
    cases present :
        (inside.properties strings).find?
          fun property => property.name = key with
    | none =>
        obtain ⟨written, done, sets⟩ :=
          layout.storeKeyValue_absent focus present isName short small fresh
            walked
        exact ⟨address, written, found, done, sets⟩
    | some property =>
        have named := List.find?_some present
        obtain ⟨stored, old⟩ := property
        simp only [decide_eq_true_eq] at named
        subst named
        obtain ⟨written, done, sets⟩ :=
          layout.storeKeyValue_existing focus present short small fresh
            walked
        exact ⟨address, written, found, done, sets⟩

end Setting

end Layout

end OverclockBuilder
